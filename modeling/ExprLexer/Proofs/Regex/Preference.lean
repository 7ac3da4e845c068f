import ExprLexer.Proofs.Regex.Ways

/-!
Which end the search of a program prefers.

The search follows all ways at once and goes to each place once between two characters, but it keeps
the order in which the ways would be tried one at a time: a place that comes again has been tried
with no success, or is still being tried. So what the search finds is the first end of all.
-/

namespace ExprLexer

namespace Program

variable {ops : Array Op} {fresh : Finset Nat} {i : Nat} {u v : Spot}

/-! ### Following what reads nothing -/

lemma findSome?_cons_eq_or {α β : Type} (f : α → Option β) (x : α) (xs : List α) :
    (x :: xs).findSome? f = (f x).or (xs.findSome? f) := by
  rw [List.findSome?_cons]
  cases f x <;> rfl

/-- The first end behind the places at which a search has arrived. -/
def first? (ops : Array Op) (u : Spot) (is : List Nat) : Option Spot :=
  is.findSome? fun i => (gains ops i u).head?

/-- The first end behind the places that a search has still to follow. Each stands with the places
that are fresh on the way to it. -/
def firstPending? (ops : Array Op) (u : Spot) (st : List (Nat × Finset Nat)) : Option Spot :=
  st.findSome? fun a => (ends ops a.2 a.1 u).head?

/-- What holds while places are followed, as long as none leads to an end. -/
structure Trying (ops : Array Op) (u : Spot) (seen : Array Bool) (st : List (Nat × Finset Nat)) :
    Prop where
  fresh : ∀ a ∈ st, ∀ k, seen[k]? = some false → k ∈ a.2
  nested : st.Pairwise (·.2 ⊆ ·.2)
  gains_eq_nil : ∀ s, seen[s]? ≠ some false → gains ops s u = []
  /-- A place that is still being tried is not fresh on the ways that wait. -/
  leads : ∀ s, seen[s]? ≠ some false → ∀ j ∈ onward ops u.context s,
    seen[j]? ≠ some false ∨ ∃ f, (j, f) ∈ st ∧ s ∉ f

variable {seen : Array Bool} {st : List (Nat × Finset Nat)}

/-- A place that comes again leads to no end that is fresh. -/
lemma Trying.ends_eq_nil (h : Trying ops u seen st) (hle : ∀ a ∈ st, fresh ⊆ a.2)
    (hi : seen[i]? ≠ some false) : ends ops fresh i u = [] := by
  induction fresh using Finset.strongInduction generalizing i with
  | H fresh ih =>
    by_cases hmem : i ∈ fresh
    · rw [ends_of_mem hmem, h.gains_eq_nil i hi, List.nil_append, List.flatMap_eq_nil_iff]
      intro j hj
      refine ih _ (Finset.erase_ssubset hmem)
        (fun a ha => (Finset.erase_subset i fresh).trans (hle a ha)) ?_
      -- were `i` still being tried, it would not be fresh
      refine (h.leads i hi j hj).resolve_right fun ⟨f, hf, hif⟩ => hif (hle _ hf hmem)
    · exact ends_of_not_mem hmem u

lemma getElem?_setIfInBounds_true {k : Nat} :
    (seen.setIfInBounds i true)[k]? = some false ↔ k ≠ i ∧ seen[k]? = some false := by
  rw [Array.getElem?_setIfInBounds]
  split_ifs <;> grind

/-- A place that has been tried may be left out. -/
lemma Trying.tail (h : Trying ops u seen ((i, fresh) :: st)) (hi : seen[i]? ≠ some false) :
    Trying ops u seen st where
  fresh a ha := h.fresh a (List.mem_cons_of_mem _ ha)
  nested := (List.pairwise_cons.mp h.nested).2
  gains_eq_nil := h.gains_eq_nil
  leads s hs j hj := by
    rcases h.leads s hs j hj with hj' | ⟨f, hf, hsf⟩
    · exact .inl hj'
    · rcases List.mem_cons.mp hf with hf | hf
      · cases hf
        exact .inl hi
      · exact .inr ⟨f, hf, hsf⟩

/-- A place is tried by going where it leads. -/
lemma Trying.push (h : Trying ops u seen ((i, fresh) :: st)) (hgain : gains ops i u = []) :
    Trying ops u (seen.setIfInBounds i true)
      ((onward ops u.context i).map (·, fresh.erase i) ++ st) where
  fresh a ha k hk := by
    obtain ⟨hki, hk⟩ := getElem?_setIfInBounds_true.mp hk
    rcases List.mem_append.mp ha with ha | ha
    · obtain ⟨j, -, rfl⟩ := List.mem_map.mp ha
      exact Finset.mem_erase.mpr ⟨hki, h.fresh _ List.mem_cons_self k hk⟩
    · exact h.fresh a (List.mem_cons_of_mem _ ha) k hk
  nested := by
    obtain ⟨hhead, htail⟩ := List.pairwise_cons.mp h.nested
    refine List.pairwise_append.mpr ⟨?_, htail, ?_⟩
    · exact List.pairwise_map.mpr (List.pairwise_of_forall fun _ _ => Finset.Subset.refl _)
    · intro a ha b hb
      obtain ⟨j, -, rfl⟩ := List.mem_map.mp ha
      exact (Finset.erase_subset i fresh).trans (hhead b hb)
  gains_eq_nil s hs := by
    by_cases hsi : s = i
    · rw [hsi, hgain]
    · exact h.gains_eq_nil s fun hfalse => hs (getElem?_setIfInBounds_true.mpr ⟨hsi, hfalse⟩)
  leads s hs j hj := by
    by_cases hsi : s = i
    · subst hsi
      exact .inr ⟨_, List.mem_append_left _ (List.mem_map_of_mem hj), Finset.notMem_erase s fresh⟩
    · have hs' : seen[s]? ≠ some false :=
        fun hfalse => hs (getElem?_setIfInBounds_true.mpr ⟨hsi, hfalse⟩)
      rcases h.leads s hs' j hj with hj' | ⟨f, hf, hsf⟩
      · exact .inl fun hfalse => hj' (getElem?_setIfInBounds_true.mp hfalse).2
      · rcases List.mem_cons.mp hf with hf | hf
        · cases hf
          exact .inl fun hfalse => (getElem?_setIfInBounds_true.mp hfalse).1 rfl
        · exact .inr ⟨f, List.mem_append_right _ hf, hsf⟩

/-- What has been found stays in front. -/
lemma isPrefix_closeFrom (x : Context) (seen : Array Bool) (out todo : List Nat) :
    out.reverse <+: closeFrom ops x seen out todo := by
  fun_induction closeFrom ops x seen out todo with
  | case1 => exact List.prefix_rfl
  | case2 _ _ _ _ _ _ _ _ _ ih => exact ih
  | case3 _ _ _ _ _ _ _ _ _ ih => exact ih
  | case4 _ out i _ _ _ _ _ ih =>
    rw [List.reverse_cons] at ih
    exact (List.prefix_append _ _).trans ih
  | case5 _ _ _ _ _ ih => exact ih

lemma first?_eq_of_isPrefix {is is' : List Nat} (h : is <+: is') (hv : first? ops u is = some v) :
    first? ops u is' = some v := by
  obtain ⟨rest, rfl⟩ := h
  rw [first?] at hv ⊢
  rw [List.findSome?_append, hv, Option.some_or]

lemma firstPending?_cons (a : Nat × Finset Nat) (st : List (Nat × Finset Nat)) :
    firstPending? ops u (a :: st) = (ends ops a.2 a.1 u).head?.or (firstPending? ops u st) :=
  findSome?_cons_eq_or _ a st

lemma firstPending?_push (h : i ∈ fresh) (hgain : gains ops i u = [])
    (st : List (Nat × Finset Nat)) :
    firstPending? ops u ((onward ops u.context i).map (·, fresh.erase i) ++ st) =
      firstPending? ops u ((i, fresh) :: st) := by
  rw [firstPending?_cons, ends_of_mem h, hgain, List.nil_append, List.head?_flatMap]
  simp only [firstPending?, List.findSome?_append, List.findSome?_map, Function.comp_def]

lemma exists_of_map_fst_eq_cons {todo : List Nat} (h : st.map Prod.fst = i :: todo) :
    ∃ fresh st', st = (i, fresh) :: st' ∧ st'.map Prod.fst = todo := by
  obtain ⟨⟨_, fresh⟩, st', hst, rfl, htodo⟩ := List.map_eq_cons_iff.mp h
  exact ⟨fresh, st', hst, htodo⟩

/-- **Following keeps the order.** What has been found is preferred to what is found behind the
places that are left; of these, the first way that is fresh finds the first end. -/
lemma first?_closeFrom (seen : Array Bool) (out todo : List Nat) :
    ∀ st, Trying ops u seen st → st.map Prod.fst = todo →
      first? ops u (closeFrom ops u.context seen out todo) =
        (first? ops u out.reverse).or (firstPending? ops u st) := by
  fun_induction closeFrom ops u.context seen out todo with
  | case1 =>
    rintro st - htodo
    cases List.map_eq_nil_iff.mp htodo
    simp [firstPending?]
  | case2 seen out i todo hi _ j k hop ih =>
    intro st h htodo
    obtain ⟨fresh, st, rfl, rfl⟩ := exists_of_map_fst_eq_cons htodo
    have hgain : gains ops i u = [] := by simp [gains, hop]
    rw [ih _ (h.push hgain) (by simp [onward, hop]),
      firstPending?_push (h.fresh _ List.mem_cons_self i hi) hgain]
  | case3 seen out i todo hi _ a next hop ih =>
    intro st h htodo
    obtain ⟨fresh, st, rfl, rfl⟩ := exists_of_map_fst_eq_cons htodo
    have hgain : gains ops i u = [] := by simp [gains, hop]
    rw [dite_eq_ite] at ih
    rw [ih _ (h.push hgain) (by simp only [onward, hop]; split <;> simp),
      firstPending?_push (h.fresh _ List.mem_cons_self i hi) hgain]
  | case4 seen out i todo hi _ hsplit hlook ih =>
    intro st h htodo
    obtain ⟨fresh, st, rfl, rfl⟩ := exists_of_map_fst_eq_cons htodo
    have hfresh : i ∈ fresh := h.fresh _ List.mem_cons_self i hi
    have honward : onward ops u.context i = [] := by
      unfold onward
      split <;> simp_all
    cases hgain : gains ops i u with
    | nil =>
      rw [ih _ (h.push hgain) (by simp [honward]), firstPending?_push hfresh hgain]
      simp [first?, hgain]
    | cons v vs =>
      -- what is found here hides all that comes behind it
      rw [firstPending?_cons, ends_of_mem hfresh, hgain]
      have hfirst : first? ops u (i :: out).reverse = (first? ops u out.reverse).or (some v) := by
        simp [first?, hgain]
      cases hout : first? ops u out.reverse <;> rw [hout] at hfirst <;>
        exact first?_eq_of_isPrefix (isPrefix_closeFrom _ _ _ _) hfirst
  | case5 seen out i todo hi ih =>
    intro st h htodo
    obtain ⟨fresh, st, rfl, rfl⟩ := exists_of_map_fst_eq_cons htodo
    have hle : ∀ a ∈ (i, fresh) :: st, fresh ⊆ a.2 :=
      List.forall_mem_cons.mpr ⟨Finset.Subset.refl _, (List.pairwise_cons.mp h.nested).1⟩
    rw [ih _ (h.tail hi) rfl, firstPending?_cons, h.ends_eq_nil hle hi]
    rfl

/-! ### Reading -/

variable {p : Program}

/-- What a list of places would find, each tried in turn. -/
def best? (ops : Array Op) (u : Spot) (is : List Nat) : Option Spot :=
  is.findSome? fun i => (ends ops (places ops) i u).head?

lemma first?_close (p : Program) (u : Spot) (is : List Nat) :
    first? p.ops u (p.close u.context is) = best? p.ops u is := by
  have h : Trying p.ops u (Array.replicate p.ops.size false) (is.map (·, places p.ops)) :=
    { fresh := by
        intro a ha k hk
        obtain ⟨j, -, rfl⟩ := List.mem_map.mp ha
        simpa [places] using (Array.getElem?_eq_some_iff.mp hk).1
      nested := List.pairwise_map.mpr (List.pairwise_of_forall fun _ _ => Finset.Subset.refl _)
      gains_eq_nil := by
        intro s hs
        have : p.ops[s]? = none := by simpa [Array.getElem?_replicate] using hs
        simp [gains, this]
      leads := by
        intro s hs j hj
        have : p.ops[s]? = none := by simpa [Array.getElem?_replicate] using hs
        simp [onward, this] at hj }
  rw [close, first?_closeFrom _ _ _ _ h (by simp [Function.comp_def])]
  simp [first?, firstPending?, best?, Function.comp_def, List.findSome?_map]

lemma first?_cons (u : Spot) (i : Nat) (is : List Nat) :
    first? ops u (i :: is) = (gains ops i u).head?.or (first? ops u is) :=
  findSome?_cons_eq_or _ i is

lemma gains_of_isDone (h : p.isDone i = true) (u : Spot) : gains p.ops i u = [u] := by
  have hop : p.ops[i]? = some .done := by simpa [isDone] using h
  simp [gains, hop]

lemma gains_of_readAt? (h : p.isDone i = false) (b a : Text) (c : Char) :
    gains p.ops i ⟨b, c :: a⟩ =
      (p.readAt? c i).toList.flatMap (ends p.ops (places p.ops) · ⟨b ++ [c], a⟩) := by
  unfold gains readAt? Spot.read?
  split
  · simp_all [isDone]
  · rename_i s next hop
    simp only [hop]
    split <;> simp
  · simp_all

lemma gains_nil (h : p.isDone i = false) (b : Text) : gains p.ops i ⟨b, []⟩ = [] := by
  unfold gains Spot.read?
  split <;> simp_all [isDone]

/-- Where a search arrives, an operation that is done ends it, and those before it read on. -/
lemma first?_eq_best?_reads (b a : Text) (c : Char) (is : List Nat) :
    first? p.ops ⟨b, c :: a⟩ is =
      (best? p.ops ⟨b ++ [c], a⟩ (p.reads c is)).or
        (if is.any p.isDone then some ⟨b, c :: a⟩ else none) := by
  induction is with
  | nil => rfl
  | cons i is ih =>
    rw [first?_cons, ih]
    cases hdone : p.isDone i with
    | true => simp [gains_of_isDone hdone, reads, hdone, best?]
    | false =>
      have hreads : p.reads c (i :: is) = (p.readAt? c i).toList ++ p.reads c is := by
        cases hread : p.readAt? c i <;> simp [reads, hdone, hread]
      rw [gains_of_readAt? hdone, hreads, List.any_cons, hdone, Bool.false_or, List.head?_flatMap,
        best?, best?, List.findSome?_append, Option.or_assoc]

lemma first?_eq_of_nil (b : Text) (is : List Nat) :
    first? p.ops ⟨b, []⟩ is = if is.any p.isDone then some ⟨b, []⟩ else none := by
  induction is with
  | nil => rfl
  | cons i is ih =>
    rw [first?_cons, ih]
    cases hdone : p.isDone i with
    | true => simp [gains_of_isDone hdone, hdone]
    | false => simp [gains_nil hdone, hdone]

/-! ### The search -/

/-- **The search, from any place in the text**, finds what trying the places one after the other
would find first. -/
lemma run_eq (b : Text) (is : List Nat) (found : Option Nat) (t : Text) :
    p.run b.getLast? is (Text.byteLength b) found t =
      ((best? p.ops ⟨b, t⟩ is).map fun v => Text.byteLength v.before).or found := by
  induction t generalizing b is found with
  | nil =>
    rw [← first?_close, first?_eq_of_nil, run]
    change (if (p.close (Spot.context ⟨b, []⟩) is).any p.isDone then _ else _) = _
    split_ifs <;> rfl
  | cons c t ih =>
    unfold run
    cases is with
    | nil => rfl
    | cons i is =>
      have hlen : Text.byteLength b + c.utf8Size = Text.byteLength (b ++ [c]) := by
        simp [Text.byteLength_append]
      have hrest := ih (b ++ [c]) (p.reads c (p.close (Spot.context ⟨b, c :: t⟩) (i :: is)))
      rw [List.getLast?_concat, ← hlen] at hrest
      rw [← first?_close, first?_eq_best?_reads, Option.map_or, Option.or_assoc]
      refine (hrest _).trans (congrArg _ ?_)
      change (if (p.close (Spot.context ⟨b, c :: t⟩) (i :: is)).any p.isDone then _ else _) = _
      split_ifs <;> rfl

/-- **The search finds the end that is preferred.** -/
theorem find?_eq (p : Program) (t : Text) :
    p.find? t = (ends p.ops (places p.ops) p.entry (.front t)).head?.map
      fun v => Text.byteLength v.before := by
  have h := run_eq (p := p) [] [p.entry] none t
  rw [Option.or_none] at h
  exact h.trans (by simp [best?, Spot.front])

end Program

end ExprLexer
