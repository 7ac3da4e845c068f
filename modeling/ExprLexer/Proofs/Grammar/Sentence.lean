import ExprLexer.Proofs.Grammar.Scan
import ExprLexer.Proofs.Lexeme.Longest
import ExprLexer.Proofs.Text.Boundary
import ExprLexer.Proofs.Text.Cut

/-!
Sentences: the token lists that the grammar of the built-in classes reads.

A sentence of a text is a list of lexemes that make up the text, in which no number follows a
number and only an operator follows a component with a target. Lexemes alone are ambiguous; the
two conditions on neighbours say exactly that each token is the longest lexeme where it stands, and
since the first character tells the kind, that the first applicable rule reads it.
-/

namespace ExprLexer

/-- One token may stand right before the other. -/
def Token.Separable (a b : Token) : Prop :=
  ¬(a.kind = .number ∧ b.kind = .number) ∧
    (a.kind = .component → Lexeme.IsAimed a.value → b.kind = .operator)

/-- The tokens are lexemes that make up the text, and neighbours are separable. -/
def Sentence (s : Text) (ts : List Token) : Prop :=
  Cut Token.value (fun t => t.kind.Language t.value) Token.Separable s ts

namespace Sentence

variable {s rest u : Text} {t b : Token} {ts : List Token} {c : Char}

/-- A text that is not empty has a first token, which begins with its first character. -/
lemma exists_head (h : Sentence (c :: u) ts) :
    ∃ b us rest, ts = b :: us ∧ b.value ++ rest = c :: u ∧ b.kind.Begins c ∧
      b.kind.Language b.value ∧ Sentence rest us := by
  cases ts with
  | nil => cases Cut.nil_iff.mp h
  | cons b us =>
    obtain ⟨rest, happ, hb, hrest, -⟩ := Cut.cons_iff.mp h
    obtain ⟨d, v, hv, hd⟩ := hb.exists_cons
    have hdc : d = c := by
      rw [hv] at happ
      exact (List.cons.inj happ).1
    exact ⟨b, us, rest, rfl, happ, hdc ▸ hd, hb, hrest⟩

/-- No token begins with the first character of a marker or with the second of an arrow. -/
lemma not_begins (h : Sentence (c :: u) ts) : c ≠ '~' ∧ c ≠ '>' := by
  obtain ⟨b, -, -, -, -, hb, -, -⟩ := h.exists_head
  constructor <;> rintro rfl <;> revert hb <;> cases b.kind <;> simp [Kind.Begins]

/-- An arrow cannot be told as an operator with something after it. -/
lemma not_arrow : ¬Sentence ('-' :: '>' :: u) ts := by
  intro h
  obtain ⟨b, us, rest, rfl, happ, hb, hlex, hrest⟩ := h.exists_head
  have hk : b.kind = .operator := hb.unique (show Kind.operator.Begins '-' by simp [Kind.Begins])
  rw [hk] at hlex
  obtain ⟨d, -, hd⟩ := hlex
  rw [hd, List.singleton_append] at happ
  obtain ⟨-, rfl⟩ := List.cons.inj happ
  exact hrest.not_begins.2 rfl

/-! ### Separable neighbours and longest lexemes -/

/-- A first token that is the longest lexeme is separable from the next. -/
lemma separable_of_longest (h : Sentence rest ts)
    (hmax : ∀ w, w <+: t.value ++ rest → t.kind.Language w → w.length ≤ t.value.length)
    (ht : t.kind.Language t.value) (hb : b ∈ ts.head?) : t.Separable b := by
  obtain ⟨us, rfl⟩ := List.head?_eq_some_iff.mp hb
  obtain ⟨rest', rfl, hlex, -, -⟩ := Cut.cons_iff.mp h
  obtain ⟨c, v, hv, hc⟩ := hlex.exists_cons
  -- one more character cannot make a longer lexeme
  have hmore : ¬t.kind.Language (t.value ++ [c]) := by
    intro hl
    have := hmax (t.value ++ [c]) ⟨v ++ rest', by simp [hv]⟩ hl
    rw [List.length_append, List.length_singleton] at this
    omega
  constructor
  · rintro ⟨htk, hbk⟩
    rw [htk] at ht hmore
    rw [hbk] at hc
    exact hmore (Lexeme.IsNumber.append_singleton ht hc)
  · intro htk haimed
    by_contra hbk
    rw [htk] at hmore
    refine hmore (.inr (haimed.append_singleton fun hstop => ?_))
    obtain ⟨hdigit, halpha⟩ := not_isAlphanum_of_mem_stops hstop
    cases hk : b.kind with
    | number => simp [hk, Kind.Begins, hdigit] at hc
    | operator => exact hbk hk
    | component => simp [hk, Kind.Begins, halpha] at hc

/-- Nothing that follows a token separable from the next makes it a longer lexeme. -/
lemma eq_nil_of_language_append {x y : Text} (h : Sentence (x ++ y) ts)
    (hsep : ∀ b ∈ ts.head?, t.Separable b) (ht : t.kind.Language t.value)
    (hx : t.kind.Language (t.value ++ x)) : x = [] := by
  rcases x with _ | ⟨c, x⟩
  · rfl
  exfalso
  obtain ⟨b, us, rest, rfl, -, hc, -, -⟩ := h.exists_head
  obtain ⟨hnum, haim⟩ := hsep b rfl
  cases hk : t.kind with
  | number =>
    rw [hk] at hx
    have hd : Kind.number.Begins c := Lexeme.IsNumber.extend hx c List.mem_cons_self
    exact hnum ⟨hk, hc.unique hd⟩
  | operator =>
    rw [hk] at ht hx
    cases Lexeme.IsOperator.extend ht hx
  | component =>
    rw [hk] at ht hx
    rcases ht with hbare | haimed
    · rcases hbare.extend hx with hnil | ⟨z, hz⟩ | ⟨z, hz⟩
      · cases hnil
      · exact h.not_begins.1 (List.cons.inj hz).1
      · rw [hz] at h
        exact not_arrow h
    · have hop := haim hk haimed
      rw [hop] at hc
      exact haimed.extend hx c List.mem_cons_self (mem_stops_of_mem_signs hc)

/-- A token separable from the next is the longest lexeme where it stands. -/
lemma longest_of_separable (h : Sentence rest ts) (hsep : ∀ b ∈ ts.head?, t.Separable b)
    (ht : t.kind.Language t.value) {w : Text} (hw : w <+: t.value ++ rest)
    (hlex : t.kind.Language w) : w.length ≤ t.value.length := by
  rcases Text.isPrefix_append_cases hw with hle | ⟨x, hne, ⟨y, rfl⟩, rfl⟩
  · exact hle.length_le
  · exact absurd (eq_nil_of_language_append h hsep ht hlex) hne

end Sentence

namespace Grammar

/-! ### The built-in grammar -/

lemma read?_ofKind (k : Kind) (t : Text) : (Rule.ofKind k).read? t = k.lexeme? t := by
  refine Option.ext fun ⟨m, rest⟩ => ?_
  rw [Rule.read?_eq_some_iff]
  constructor
  · rintro ⟨-, rfl, hlen⟩
    obtain ⟨⟨v, rest'⟩, h, hv⟩ := Option.map_eq_some_iff.mp hlen
    have hbytes : Text.byteLength v = Text.byteLength m := hv
    -- two cuts at one byte count are one cut
    obtain ⟨rfl, rfl⟩ := Text.append_inj_of_byteLength (Kind.lexeme?_sound h).1 hbytes
    exact h
  · intro h
    obtain ⟨happ, hlex⟩ := Kind.lexeme?_sound h
    obtain ⟨c, v, rfl, -⟩ := hlex.exists_cons
    exact ⟨by simp, happ, by simp [Rule.ofKind, Matcher.ofKind, h]⟩

lemma builtin_first?_eq_findSome? (t : Text) :
    builtin.first? t =
      Kind.all.findSome? fun k => (k.lexeme? t).map fun (m, rest) => (⟨k, m⟩, rest) := by
  rw [first?_eq_findSome?, show builtin.rules = Kind.all.map Rule.ofKind from rfl,
    List.findSome?_map]
  simp only [Function.comp_def, read?_ofKind]
  rfl

/-- The first match is the longest lexeme of the one kind that begins with the first character. -/
lemma builtin_first?_eq_some_iff {t rest : Text} {tok : Token} :
    builtin.first? t = some (tok, rest) ↔ tok.kind.lexeme? t = some (tok.value, rest) := by
  have hsound {tok : Token} {rest : Text} (h : builtin.first? t = some (tok, rest)) :
      tok.kind.lexeme? t = some (tok.value, rest) := by
    rw [builtin_first?_eq_findSome?] at h
    obtain ⟨k, -, hk⟩ := List.exists_of_findSome?_eq_some h
    obtain ⟨⟨m, r⟩, hm, heq⟩ := Option.map_eq_some_iff.mp hk
    cases heq
    exact hm
  refine ⟨hsound, fun h => ?_⟩
  rcases hf : builtin.first? t with _ | ⟨⟨k, m⟩, r⟩
  · rw [builtin_first?_eq_findSome?, List.findSome?_eq_none_iff] at hf
    simpa [h] using hf tok.kind (Kind.mem_all _)
  · have hk : tok.kind = k := Kind.eq_of_lexeme? h (hsound hf)
    have h' := (hk ▸ h).symm.trans (hsound hf)
    cases h'
    rw [← hk]

/-- No rule applies exactly if no lexeme begins the text. -/
lemma builtin_first?_eq_none_iff {t : Text} :
    builtin.first? t = none ↔ ∀ (k : Kind) (w : Text), w <+: t → ¬k.Language w := by
  simp only [builtin_first?_eq_findSome?, List.findSome?_eq_none_iff, Kind.mem_all, forall_const,
    Option.map_eq_none_iff, Kind.lexeme?_eq_none_iff]

/-- **What the built-in grammar reads to the end are the sentences.** -/
lemma builtin_reads_iff {s : Text} {ts : List Token} : builtin.Reads s ts [] ↔ Sentence s ts := by
  induction ts generalizing s with
  | nil =>
    rw [Sentence, Cut.nil_iff, reads_iff]
    exact ⟨fun h => h.2.symm, fun h => ⟨chain_nil s, h.symm⟩⟩
  | cons tok ts ih =>
    rw [Sentence, Cut.cons_iff]
    constructor
    · rintro (_ | ⟨first, reads⟩)
      obtain ⟨happ, hlex, hmax⟩ :=
        Kind.lexeme?_eq_some_iff.mp (builtin_first?_eq_some_iff.mp first)
      have hrest := ih.mp reads
      exact ⟨_, happ, hlex, hrest, fun b hb => hrest.separable_of_longest (happ ▸ hmax) hlex hb⟩
    · rintro ⟨rest, rfl, hlex, hrest, hsep⟩
      refine .next (builtin_first?_eq_some_iff.mpr (Kind.lexeme?_eq_some_iff.mpr
        ⟨rfl, hlex, fun w hw hl => ?_⟩)) (ih.mpr hrest)
      exact Sentence.longest_of_separable hrest hsep hlex hw hl

/-- **The built-in grammar accepts exactly the sentences**: the tokens of an expression are the one
sentence of its significant text, and the run fails if there is none. -/
theorem builtin_tokens_iff_sentence (e : Text) :
    (∀ ts, builtin.tokens e = .ok ts ↔ Sentence (significant e) ts) ∧
    (∀ ts us, Sentence (significant e) ts → Sentence (significant e) us → ts = us) ∧
    ((∃ err, builtin.tokens e = .error err) ↔ ¬∃ ts, Sentence (significant e) ts) := by
  have hiff (ts : List Token) : builtin.tokens e = .ok ts ↔ Sentence (significant e) ts := by
    rw [tokens_eq_ok_iff, builtin_reads_iff]
  refine ⟨hiff, fun ts us hts hus => ?_, ?_⟩
  · have := ((hiff ts).mpr hts).symm.trans ((hiff us).mpr hus)
    exact Except.ok.inj this
  · simp only [← hiff]
    cases builtin.tokens e <;> simp

end Grammar

end ExprLexer
