import ExprLexer.Pieces
import ExprLexer.Proofs.Lexeme.Language
import ExprLexer.Proofs.Text.Cut

/-!
The pieces of an expression as a partition of its significant text.

Every piece is an operator or a run without operators, and two runs are never neighbours. This is
what one more character in front preserves, whichever kind of character it is; so it holds of the
pieces of every expression. A text has one such partition only: the first piece is as long as it
can be, since a run that stopped earlier would stand beside the rest of itself.
-/

namespace ExprLexer

/-- No operator occurs. -/
def SignFree (p : Text) : Prop := ∀ c ∈ p, c ∉ "+-*/".toList

/-- The pieces make up the text; each is an operator or a run without operators, and no run stands
beside another. -/
def Partition (s : Text) (ps : List Text) : Prop :=
  Cut id (fun p => p ≠ [] ∧ (Lexeme.IsOperator p ∨ SignFree p))
    (fun p q => ¬(SignFree p ∧ SignFree q)) s ps

lemma not_signFree_of_isOperator {p : Text} (h : Lexeme.IsOperator p) : ¬SignFree p := by
  obtain ⟨c, hc, rfl⟩ := h
  exact fun hfree => hfree c List.mem_cons_self hc

namespace Partition

variable {s : Text} {p q : Text} {ps qs : List Text} {c : Char}

lemma flatten (h : Partition s ps) : ps.flatten = s := by
  rw [← List.flatMap_id, h.concat]

/-- An operator in front is a piece of its own. -/
lemma sign (h : Partition s ps) (hc : c ∈ "+-*/".toList) : Partition (c :: s) ([c] :: ps) := by
  have hop : Lexeme.IsOperator [c] := ⟨c, hc, rfl⟩
  exact Cut.cons_iff.mpr ⟨s, rfl, ⟨by simp, .inl hop⟩, h,
    fun q _ hfree => not_signFree_of_isOperator hop hfree.1⟩

/-- Any other character in front goes to the run that comes next, or begins one. -/
lemma attach (h : Partition s ps) (hc : c ∉ "+-*/".toList) :
    Partition (c :: s) (ExprLexer.attach c ps) := by
  have hfree : SignFree [c] := fun d hd => List.mem_singleton.mp hd ▸ hc
  cases ps with
  | nil => exact Cut.cons_iff.mpr ⟨s, rfl, ⟨by simp, .inr hfree⟩, h, by simp⟩
  | cons p ps =>
    obtain ⟨rest, rfl, ⟨hne, hp⟩, hrest, hq⟩ := Cut.cons_iff.mp h
    obtain ⟨d, p, rfl⟩ := List.exists_cons_of_ne_nil hne
    simp only [ExprLexer.attach]
    split_ifs with hd
    · -- an operator comes next
      refine Cut.cons_iff.mpr ⟨_, rfl, ⟨by simp, .inr hfree⟩, h, fun q hq' hboth => ?_⟩
      cases Option.mem_some.mp hq'
      exact hboth.2 d List.mem_cons_self (isOperatorSign_iff.mp hd)
    · -- a run comes next
      have hrun : SignFree (d :: p) := by
        rcases hp with ⟨d', hd', heq⟩ | hp
        · cases heq
          exact absurd (isOperatorSign_iff.mpr hd') hd
        · exact hp
      have hrun' : SignFree (c :: d :: p) := List.forall_mem_cons.mpr ⟨hc, hrun⟩
      exact Cut.cons_iff.mpr ⟨rest, rfl, ⟨by simp, .inr hrun'⟩, hrest,
        fun q hq' hboth => hq q hq' ⟨hrun, hboth.2⟩⟩

/-- A run begins with no operator. -/
lemma signFree_of_cons (h : Partition (c :: s) (p :: ps)) (hc : c ∉ "+-*/".toList) :
    SignFree p := by
  obtain ⟨rest, happ, ⟨-, hp⟩, -, -⟩ := Cut.cons_iff.mp h
  rcases hp with ⟨d, hd, rfl⟩ | hp
  · cases happ
    exact absurd hd hc
  · exact hp

/-- Of two partitions of one text, neither has the longer first piece. -/
lemma length_head_le (h : Partition s (p :: ps)) (h' : Partition s (q :: qs)) :
    q.length ≤ p.length := by
  by_contra hlt
  obtain ⟨rest, happ, ⟨hne, -⟩, hrest, hbeside⟩ := Cut.cons_iff.mp h
  obtain ⟨rest', happ', ⟨-, hq⟩, -, -⟩ := Cut.cons_iff.mp h'
  obtain ⟨x, rfl⟩ : p <+: q :=
    List.prefix_of_prefix_length_le ⟨rest, happ⟩ ⟨rest', happ'⟩ (by omega)
  rcases x with _ | ⟨c, x⟩
  · simp at hlt
  rcases hq with ⟨d, -, hd⟩ | hq
  · -- an operator is one character
    have := congrArg List.length hd
    have := List.length_pos_iff.mpr hne
    simp at *
    omega
  · -- the rest of the run would be the next piece, or begin it
    have hp : SignFree p := fun d hd => hq d (List.mem_append_left _ hd)
    have hc : c ∉ "+-*/".toList := hq c (by simp)
    have hrest' : rest = c :: (x ++ rest') :=
      List.append_cancel_left (happ.trans (by rw [← happ']; simp))
    subst hrest'
    rcases ps with _ | ⟨p', ps⟩
    · cases Cut.nil_iff.mp hrest
    · exact hbeside p' rfl ⟨hp, signFree_of_cons hrest hc⟩

lemma eq_nil (h : Partition [] ps) : ps = [] := by
  rcases ps with _ | ⟨p, ps⟩
  · rfl
  · obtain ⟨rest, happ, ⟨hne, -⟩, -, -⟩ := Cut.cons_iff.mp h
    exact absurd (List.append_eq_nil_iff.mp happ).1 hne

/-- **A text has one partition.** -/
lemma unique (h : Partition s ps) (h' : Partition s qs) : ps = qs := by
  induction ps generalizing s qs with
  | nil =>
    cases Cut.nil_iff.mp h
    exact h'.eq_nil.symm
  | cons p ps ih =>
    rcases qs with _ | ⟨q, qs⟩
    · cases Cut.nil_iff.mp h'
      exact h.eq_nil
    · have hlen : p.length = q.length := le_antisymm (h'.length_head_le h) (h.length_head_le h')
      obtain ⟨rest, happ, -, hrest, -⟩ := Cut.cons_iff.mp h
      obtain ⟨rest', happ', -, hrest', -⟩ := Cut.cons_iff.mp h'
      obtain ⟨hpq, rfl⟩ := List.append_inj (happ.trans happ'.symm) hlen
      rw [ih hrest hrest', show p = q from hpq]

end Partition

/-- **The pieces of an expression partition its significant text.** -/
lemma pieces_partition (e : Text) : Partition (significant e) (pieces e) := by
  induction e with
  | nil => exact Cut.nil_iff.mpr rfl
  | cons c e ih =>
    unfold pieces
    by_cases hf : isFiller c = true
    · rwa [if_pos hf, significant, List.filter_cons_of_neg (by simpa using hf)]
    · have hs : significant (c :: e) = c :: significant e :=
        List.filter_cons_of_pos (by simpa using hf)
      rw [if_neg hf, hs]
      split_ifs with hc
      · exact ih.sign (isOperatorSign_iff.mp hc)
      · exact ih.attach (mt isOperatorSign_iff.mpr hc)

/-- **What splitting gives**: a list of texts is the pieces of an expression exactly if it
partitions the significant text. So expressions with the same significant text have the same
pieces. -/
theorem pieces_eq_iff_partition (e : Text) :
    (∀ ps, pieces e = ps ↔ Partition (significant e) ps) ∧
    ∀ e', significant e' = significant e → pieces e' = pieces e := by
  have hpieces := pieces_partition e
  refine ⟨fun ps => ⟨fun h => h ▸ hpieces, fun h => hpieces.unique h⟩, fun e' h => ?_⟩
  exact (h ▸ pieces_partition e').unique hpieces

example : pieces "--a b(1".toList = ["-".toList, "-".toList, "ab1".toList] := by cbv

end ExprLexer
