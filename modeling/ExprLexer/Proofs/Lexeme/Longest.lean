import ExprLexer.Proofs.Lexeme.Language

/-!
Each reader splits off the longest lexeme that begins a text.

What a reader returns is a lexeme of its class with the rest of the text, and a lexeme that begins
the text makes the reader return one that is at least as long. The two facts determine the reader.
-/

namespace ExprLexer

/-- What begins a text put together from two begins the first, or goes on into the second. -/
lemma Text.isPrefix_append_cases {w s t : Text} (h : w <+: s ++ t) :
    w <+: s ∨ ∃ x, x ≠ [] ∧ x <+: t ∧ w = s ++ x := by
  rcases List.prefix_or_prefix_of_prefix h (List.prefix_append s t) with hle | ⟨x, rfl⟩
  · exact .inl hle
  · have hx : x <+: t := (List.prefix_append_right_inj s).mp h
    rcases eq_or_ne x [] with rfl | hne
    · exact .inl (by simp)
    · exact .inr ⟨x, hne, hx, rfl⟩

lemma Text.dropLiteral?_eq_some_iff {p t rest : Text} :
    dropLiteral? p t = some rest ↔ p ++ rest = t := by
  induction p generalizing t with
  | nil => simp [dropLiteral?, eq_comm]
  | cons c p ih =>
    cases t with
    | nil => simp [dropLiteral?]
    | cons d t => by_cases h : c = d <;> simp [dropLiteral?, h, ih]

namespace Lexeme

/-! ### Numbers and operators -/

lemma number?_sound {t v rest : Text} (h : number? t = some (v, rest)) :
    v ++ rest = t ∧ IsNumber v := by
  unfold number? at h
  split at h
  · cases h
  · rename_i digits hne
    cases h
    refine ⟨List.takeWhile_append_dropWhile, fun hnil => hne hnil, fun c hc => ?_⟩
    exact List.mem_takeWhile_imp hc

lemma number?_longest {w : Text} (hw : IsNumber w) (t : Text) :
    ∃ v rest, number? (w ++ t) = some (v, rest) ∧ w.length ≤ v.length := by
  obtain ⟨hne, hdigit⟩ := hw
  have htake : (w ++ t).takeWhile Char.isDigit = w ++ t.takeWhile Char.isDigit :=
    List.takeWhile_append_of_pos hdigit
  obtain ⟨c, w, rfl⟩ := List.exists_cons_of_ne_nil hne
  unfold number?
  rw [htake]
  exact ⟨_, _, rfl, by simp⟩

lemma operator?_sound {t v rest : Text} (h : operator? t = some (v, rest)) :
    v ++ rest = t ∧ IsOperator v := by
  cases t with
  | nil => simp [operator?] at h
  | cons c t =>
    simp only [operator?] at h
    split at h
    · rename_i hc
      cases h
      exact ⟨rfl, c, isOperatorSign_iff.mp hc, rfl⟩
    · cases h

lemma operator?_longest {w : Text} (hw : IsOperator w) (t : Text) :
    ∃ v rest, operator? (w ++ t) = some (v, rest) ∧ w.length ≤ v.length := by
  obtain ⟨c, hc, rfl⟩ := hw
  exact ⟨[c], t, by simp [operator?, isOperatorSign_iff.mpr hc], le_rfl⟩

/-! ### Components -/

lemma letters?_eq_some_iff {t name rest : Text} :
    letters? t = some (name, rest) ↔ IsName name ∧ name ++ rest = t := by
  unfold letters?
  constructor
  · intro h
    split at h
    · rename_i hname
      cases h
      exact ⟨⟨hname.1, List.all_eq_true.mp hname.2⟩, List.take_append_drop _ _⟩
    · cases h
  · rintro ⟨⟨hlen, halpha⟩, rfl⟩
    have htake : (name ++ rest).take letterCount = name := by
      rw [← hlen.trans (show 5 = letterCount from rfl), List.take_left]
    have hdrop : (name ++ rest).drop letterCount = rest := by
      rw [← hlen.trans (show 5 = letterCount from rfl), List.drop_left]
    rw [htake, hdrop, if_pos ⟨hlen, List.all_eq_true.mpr halpha⟩]

lemma splitMarker_sound (t : Text) :
    IsMark (splitMarker t).1 ∧ (splitMarker t).1 ++ (splitMarker t).2 = t := by
  unfold splitMarker
  split
  · rename_i rest h
    exact ⟨.inr rfl, Text.dropLiteral?_eq_some_iff.mp h⟩
  · exact ⟨.inl rfl, rfl⟩

lemma splitMarker_marker (t : Text) : splitMarker ("~R+".toList ++ t) = ("~R+".toList, t) := by
  unfold splitMarker
  rw [Text.dropLiteral?_eq_some_iff.mpr (show marker ++ t = "~R+".toList ++ t from rfl)]
  rfl

lemma splitMarker_arrow (t : Text) : splitMarker ("->".toList ++ t) = ([], "->".toList ++ t) :=
  rfl

lemma splitTarget_sound (t : Text) :
    ((splitTarget t).1 = [] ∨
        ∃ target, IsTarget target ∧ (splitTarget t).1 = "->".toList ++ target) ∧
      (splitTarget t).1 ++ (splitTarget t).2 = t := by
  unfold splitTarget
  split
  · rename_i rest h
    split
    · exact ⟨.inl rfl, rfl⟩
    · rename_i target hne
      refine ⟨.inr ⟨_, ⟨fun hnil => hne hnil, fun c hc => ?_⟩, rfl⟩, ?_⟩
      · have := List.mem_takeWhile_imp hc
        rw [← endsTarget_iff]
        simpa using this
      · rw [List.append_assoc, List.takeWhile_append_dropWhile]
        exact Text.dropLiteral?_eq_some_iff.mp h
  · exact ⟨.inl rfl, rfl⟩

lemma splitTarget_longest {w : Text} (hw : IsTarget w) (t : Text) :
    ∃ target rest, splitTarget ("->".toList ++ (w ++ t)) = ("->".toList ++ target, rest) ∧
      w.length ≤ target.length := by
  obtain ⟨hne, hstop⟩ := hw
  have htake : (w ++ t).takeWhile (!endsTarget ·) = w ++ t.takeWhile (!endsTarget ·) := by
    refine List.takeWhile_append_of_pos fun c hc => ?_
    rw [Bool.not_eq_true', ← Bool.not_eq_true, endsTarget_iff]
    exact hstop c hc
  have hdrop : Text.dropLiteral? arrow ("->".toList ++ (w ++ t)) = some (w ++ t) :=
    Text.dropLiteral?_eq_some_iff.mpr rfl
  obtain ⟨c, w, rfl⟩ := List.exists_cons_of_ne_nil hne
  unfold splitTarget
  rw [hdrop]
  simp only
  rw [htake]
  exact ⟨_, _, rfl, by simp⟩

lemma component?_append {name : Text} (hname : IsName name) (t : Text) :
    component? (name ++ t) =
      some (name ++ (splitMarker t).1 ++ (splitTarget (splitMarker t).2).1,
        (splitTarget (splitMarker t).2).2) := by
  unfold component?
  rw [letters?_eq_some_iff.mpr ⟨hname, rfl⟩]
  rfl

lemma component?_sound {t v rest : Text} (h : component? t = some (v, rest)) :
    v ++ rest = t ∧ IsComponent v := by
  rcases hl : letters? t with _ | ⟨name, t₁⟩
  · simp [component?, hl] at h
  · obtain ⟨hname, rfl⟩ := letters?_eq_some_iff.mp hl
    rw [component?_append hname] at h
    cases h
    obtain ⟨hmark, happ⟩ := splitMarker_sound t₁
    obtain ⟨htarget, happ'⟩ := splitTarget_sound (splitMarker t₁).2
    refine ⟨by rw [List.append_assoc, List.append_assoc, happ', happ], ?_⟩
    rcases htarget with hnil | ⟨target, htarget, heq⟩
    · exact .inl ⟨name, _, hname, hmark, by rw [hnil, List.append_nil]⟩
    · exact .inr ⟨name, _, target, hname, hmark, htarget, by rw [heq, ← List.append_assoc]⟩

lemma component?_longest {w : Text} (hw : IsComponent w) (t : Text) :
    ∃ v rest, component? (w ++ t) = some (v, rest) ∧ w.length ≤ v.length := by
  rcases hw with ⟨name, mark, hname, hmark, rfl⟩ | ⟨name, mark, target, hname, hmark, htarget, rfl⟩
  · rw [List.append_assoc, component?_append hname]
    refine ⟨_, _, rfl, ?_⟩
    rcases hmark with rfl | rfl
    · simp
    · rw [splitMarker_marker]
      simp
  · obtain ⟨target', rest, hsplit, hle⟩ := splitTarget_longest htarget t
    have hrest : name ++ mark ++ "->".toList ++ target ++ t =
        name ++ (mark ++ ("->".toList ++ (target ++ t))) := by simp only [List.append_assoc]
    rw [hrest, component?_append hname]
    refine ⟨_, _, rfl, ?_⟩
    rcases hmark with rfl | rfl
    · rw [List.nil_append, splitMarker_arrow, hsplit]
      simp only [List.length_append, List.length_nil]
      omega
    · rw [splitMarker_marker, hsplit]
      simp only [List.length_append]
      omega

end Lexeme

/-! ### All kinds -/

namespace Kind

lemma lexeme?_sound {k : Kind} {t v rest : Text} (h : k.lexeme? t = some (v, rest)) :
    v ++ rest = t ∧ k.Language v := by
  cases k with
  | number => exact Lexeme.number?_sound h
  | operator => exact Lexeme.operator?_sound h
  | component => exact Lexeme.component?_sound h

lemma lexeme?_longest {k : Kind} {w : Text} (hw : k.Language w) (t : Text) :
    ∃ v rest, k.lexeme? (w ++ t) = some (v, rest) ∧ w.length ≤ v.length := by
  cases k with
  | number => exact Lexeme.number?_longest hw t
  | operator => exact Lexeme.operator?_longest hw t
  | component => exact Lexeme.component?_longest hw t

/-- **A reader splits off the longest lexeme.** -/
lemma lexeme?_eq_some_iff {k : Kind} {t v rest : Text} :
    k.lexeme? t = some (v, rest) ↔
      v ++ rest = t ∧ k.Language v ∧ ∀ w, w <+: t → k.Language w → w.length ≤ v.length := by
  constructor
  · intro h
    obtain ⟨happ, hv⟩ := lexeme?_sound h
    refine ⟨happ, hv, ?_⟩
    rintro w ⟨u, rfl⟩ hw
    obtain ⟨v', rest', h', hle⟩ := lexeme?_longest hw u
    rw [h] at h'
    cases h'
    exact hle
  · rintro ⟨rfl, hv, hmax⟩
    obtain ⟨v', rest', h, hle⟩ := lexeme?_longest hv rest
    obtain ⟨happ, hv'⟩ := lexeme?_sound h
    have hle' := hmax v' ⟨rest', happ⟩ hv'
    obtain ⟨rfl, rfl⟩ := List.append_inj happ (by omega)
    exact h

/-- A reader reads nothing exactly if no lexeme begins the text. -/
lemma lexeme?_eq_none_iff {k : Kind} {t : Text} :
    k.lexeme? t = none ↔ ∀ w, w <+: t → ¬k.Language w := by
  constructor
  · rintro h w ⟨u, rfl⟩ hw
    obtain ⟨v, rest, h', -⟩ := lexeme?_longest hw u
    rw [h] at h'
    cases h'
  · intro h
    rcases hl : k.lexeme? t with _ | ⟨v, rest⟩
    · rfl
    · obtain ⟨happ, hv⟩ := lexeme?_sound hl
      exact absurd hv (h v ⟨rest, happ⟩)

lemma begins_of_lexeme? {k : Kind} {t v rest : Text} (h : k.lexeme? t = some (v, rest)) :
    ∃ c u, t = c :: u ∧ k.Begins c := by
  obtain ⟨rfl, hlex⟩ := lexeme?_sound h
  obtain ⟨c, u, rfl, hc⟩ := hlex.exists_cons
  exact ⟨c, u ++ rest, rfl, hc⟩

/-- Lexemes of two kinds do not begin one text. -/
lemma eq_of_lexeme? {k k' : Kind} {t v v' rest rest' : Text} (h : k.lexeme? t = some (v, rest))
    (h' : k'.lexeme? t = some (v', rest')) : k = k' := by
  obtain ⟨c, u, rfl, hc⟩ := begins_of_lexeme? h
  obtain ⟨c', u', heq, hc'⟩ := begins_of_lexeme? h'
  cases heq
  exact hc.unique hc'

end Kind

end ExprLexer
