import ExprLexer.Lexer
import ExprLexer.Proofs.Grammar.Chain

/-!
The run of a grammar over an expression, as a chain of first matches.

Along a chain the scan adds the tokens of the chain and moves the position on by their characters.
So it succeeds with the one chain that uses up the text, and it fails where the longest chain
stops short: that place is told as a number of characters, whatever their widths in bytes.
-/

namespace ExprLexer

namespace Grammar

variable {g : Grammar}

lemma scan_nil (p : Nat) : g.scan p [] = ([], .ok []) := by rw [scan]

/-- A step that consumes a token. -/
lemma scan_of_first? {s rest : Text} {tok : Token} (h : g.first? s = some (tok, rest)) (p : Nat) :
    g.scan p s =
      ((tryRules g.rules s).1 ++ .event (.token tok p) :: (g.scan (p + tok.value.length) rest).1,
        (g.scan (p + tok.value.length) rest).2.map (tok :: ·)) := by
  cases s with
  | nil => simp [first?_nil] at h
  | cons c t =>
    have h' : tryRules g.rules (c :: t) = ((tryRules g.rules (c :: t)).1, some (tok, rest)) :=
      Prod.ext rfl h
    rw [scan]
    split
    · rename_i heq
      rw [heq] at h'
      cases h'
    · rename_i heq
      rw [heq] at h' ⊢
      cases h'
      rfl

/-- The step at which the scan fails. -/
lemma scan_of_stuck {c : Char} {t : Text} (h : g.first? (c :: t) = none) (p : Nat) :
    g.scan p (c :: t) =
      ((tryRules g.rules (c :: t)).1 ++ [.event (.failed ⟨c, p⟩)], .error ⟨c, p⟩) := by
  have h' : tryRules g.rules (c :: t) = ((tryRules g.rules (c :: t)).1, none) := Prod.ext rfl h
  rw [scan]
  split
  · rename_i heq
    rw [heq]
  · rename_i heq
    rw [heq] at h'
    cases h'

/-- The scan along a chain. -/
lemma Reads.scan {s u : Text} {ts : List Token} (h : g.Reads s ts u) (p : Nat) :
    (g.scan p s).2 = (g.scan (p + (Token.concat ts).length) u).2.map (ts ++ ·) := by
  induction h generalizing p with
  | stop s =>
    simp only [Token.concat_nil, List.length_nil, Nat.add_zero, List.nil_append]
    cases (g.scan p s).2 <;> rfl
  | @next s rest u tok ts first _ ih =>
    rw [scan_of_first? first, ih, Token.concat_cons, List.length_append, Nat.add_assoc]
    cases (g.scan (p + (tok.value.length + (Token.concat ts).length)) u).2 <;> rfl

/-- **Success**: the tokens are those of the chain that uses up the text. -/
lemma scan_eq_ok_iff {p : Nat} {s : Text} {ts : List Token} :
    (g.scan p s).2 = .ok ts ↔ g.Reads s ts [] := by
  constructor
  · intro h
    obtain ⟨us, u, hr, hu⟩ := g.exists_reads s
    rw [hr.scan] at h
    cases u with
    | nil =>
      rw [scan_nil] at h
      have : us = ts := by simpa [Except.map] using h
      exact this ▸ hr
    | cons c t =>
      rw [scan_of_stuck hu] at h
      cases h
  · intro h
    rw [h.scan, scan_nil]
    simp [Except.map]

/-- **Failure**: the error tells the first character behind a chain that cannot go on. -/
lemma scan_eq_error_iff {p q : Nat} {c : Char} {s : Text} :
    (g.scan p s).2 = .error ⟨c, q⟩ ↔
      ∃ ts t, g.Reads s ts (c :: t) ∧ g.first? (c :: t) = none ∧
        q = p + (Token.concat ts).length := by
  constructor
  · intro h
    obtain ⟨ts, u, hr, hu⟩ := g.exists_reads s
    rw [hr.scan] at h
    cases u with
    | nil =>
      rw [scan_nil] at h
      cases h
    | cons d t =>
      rw [scan_of_stuck hu] at h
      cases h
      exact ⟨ts, t, hr, hu, rfl⟩
  · rintro ⟨ts, t, hr, hu, rfl⟩
    rw [hr.scan, scan_of_stuck hu]
    rfl

/-! ### The run over an expression -/

lemma tokens_eq_scan (g : Grammar) (e : Text) : g.tokens e = (g.scan 0 (significant e)).2 := by
  unfold tokens run
  rcases h : g.scan 0 (significant e) with ⟨log, _ | _⟩ <;> rfl

lemma tokens_eq_ok_iff {e : Text} {ts : List Token} :
    g.tokens e = .ok ts ↔ g.Reads (significant e) ts [] := by
  rw [tokens_eq_scan, scan_eq_ok_iff]

lemma tokens_eq_error_iff {e : Text} {c : Char} {p : Nat} :
    g.tokens e = .error ⟨c, p⟩ ↔
      ∃ ts t, g.Reads (significant e) ts (c :: t) ∧ g.first? (c :: t) = none ∧
        p = (Token.concat ts).length := by
  rw [tokens_eq_scan, scan_eq_error_iff]
  simp only [Nat.zero_add]

/-- How a run ends that has read the tokens and stands where no rule applies. -/
def outcome (ts : List Token) : Text → Except Unmatched (List Token)
  | [] => .ok ts
  | c :: _ => .error ⟨c, (Token.concat ts).length⟩

/-- **The run over an expression** ends as the chain does that cannot go on. -/
lemma tokens_of_reads {e u : Text} {ts : List Token} (h : g.Reads (significant e) ts u)
    (hstuck : g.first? u = none) : g.tokens e = outcome ts u := by
  cases u with
  | nil => exact tokens_eq_ok_iff.mpr h
  | cons c t => exact tokens_eq_error_iff.mpr ⟨ts, t, h, hstuck, rfl⟩

lemma values_eq_error_iff {e : Text} {err : Unmatched} :
    g.values e = .error err ↔ g.tokens e = .error err := by
  unfold values
  cases g.tokens e <;> simp [Except.map]

/-- A chain that stops in front of `c`, in terms of places in the text. -/
lemma exists_reads_cons_iff {s : Text} {c : Char} {p : Nat} :
    (∃ ts t, g.Reads s ts (c :: t) ∧ g.first? (c :: t) = none ∧ p = (Token.concat ts).length) ↔
      p < s.length ∧ s[p]? = some c ∧ (∃ ts, g.Chain s ts ∧ Token.concat ts = s.take p) ∧
        g.first? (s.drop p) = none := by
  constructor
  · rintro ⟨ts, t, hr, hstuck, rfl⟩
    obtain ⟨hc, rfl⟩ := reads_iff.mp hr
    refine ⟨by simp, by simp, ⟨ts, hc, by simp⟩, ?_⟩
    rwa [List.drop_append_length]
  · rintro ⟨hp, hget, ⟨ts, hc, hts⟩, hstuck⟩
    have hdrop : s.drop p = c :: s.drop (p + 1) := by
      rw [List.drop_eq_getElem_cons hp, (List.getElem?_eq_some_iff.mp hget).2]
    refine ⟨ts, s.drop (p + 1), reads_iff.mpr ⟨hc, ?_⟩, hdrop ▸ hstuck, ?_⟩
    · rw [← hdrop, hts, List.take_append_drop]
    · rw [hts, List.length_take]
      omega

lemma not_isFiller_of_mem_value {e u : Text} {ts : List Token}
    (h : g.Reads (significant e) ts u) {t : Token} (ht : t ∈ ts) {c : Char} (hc : c ∈ t.value) :
    isFiller c = false := by
  refine not_isFiller_of_mem_significant (e := e) ?_
  rw [← h.concat_append]
  exact List.mem_append_left u (List.mem_flatMap.mpr ⟨t, ht, hc⟩)

/-- **Lossless first-match runs**: whatever the matchers answer, one chain of first matches from
the front comes to an end and decides the outcome; no chain has more tokens than there are
characters, and what is matched is cut off between two characters. The run succeeds with exactly
the tokens whose values make up the significant text and each of which is the first match of all
that the tokens before it leave. -/
theorem tokens_lossless (g : Grammar) (e : Text) :
    (∃ us rest, g.Reads (significant e) us rest ∧ g.first? rest = none ∧
      (rest = [] → g.tokens e = .ok us) ∧
      ∀ c t, rest = c :: t → g.tokens e = .error ⟨c, (Token.concat us).length⟩) ∧
    (∀ us rest, g.Reads (significant e) us rest → us.length ≤ (significant e).length ∧
      ∀ tok rest', g.first? rest = some (tok, rest') →
        Text.splitAtByte? (Text.byteLength tok.value) rest = some (tok.value, rest')) ∧
    (∀ ts, g.tokens e = .ok ts ↔
      Token.concat ts = significant e ∧ g.Chain (significant e) ts) ∧
    ∀ ts, g.tokens e = .ok ts → ts.length ≤ (significant e).length ∧
      ∀ t ∈ ts, t.value ≠ [] ∧ ∀ c ∈ t.value, Text.isBlank c = false ∧ c ≠ '(' ∧ c ≠ ')' := by
  refine ⟨?_, fun us rest hr => ⟨?_, fun tok rest' hf => ?_⟩, fun ts => ?_, fun ts hts => ?_⟩
  · obtain ⟨us, rest, hr, hstuck⟩ := g.exists_reads (significant e)
    refine ⟨us, rest, hr, hstuck, ?_, ?_⟩
    · rintro rfl
      exact tokens_eq_ok_iff.mpr hr
    · rintro c t rfl
      exact tokens_eq_error_iff.mpr ⟨us, t, hr, hstuck, rfl⟩
  · have := hr.length_add_le
    omega
  · rw [← (first?_spec hf).2, Text.splitAtByte?_append]
  · rw [tokens_eq_ok_iff, reads_iff, List.append_nil, and_comm]
  · have hr := tokens_eq_ok_iff.mp hts
    refine ⟨by simpa using hr.length_add_le, fun t ht => ⟨hr.value_ne_nil t ht, fun c hc => ?_⟩⟩
    have hfill := not_isFiller_of_mem_value hr ht hc
    simpa [isFiller, and_assoc] using hfill

/-- **Where a run fails**: at the one place that a chain of first matches from the front leads
to and no rule can leave, told as a number of characters with the character that stands there. -/
theorem tokens_eq_error_iff_stuck (g : Grammar) (e : Text) :
    (∀ c p, g.tokens e = .error ⟨c, p⟩ ↔
      p < (significant e).length ∧ (significant e)[p]? = some c ∧
      (∃ ts, g.Chain (significant e) ts ∧ Token.concat ts = (significant e).take p) ∧
      g.first? ((significant e).drop p) = none) ∧
    ∀ err, g.values e = .error err ↔ g.tokens e = .error err := by
  constructor
  · intro c p
    rw [tokens_eq_error_iff, exists_reads_cons_iff]
  · intro err
    exact values_eq_error_iff

example : Grammar.builtin.tokens "Bjaeq->é + ü".toList = .error ⟨'ü', 9⟩ := by cbv

end Grammar

end ExprLexer
