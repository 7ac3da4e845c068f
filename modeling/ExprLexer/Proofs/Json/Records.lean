import ExprLexer.Proofs.Json.Skipping
import Mathlib.Data.List.Induction

/-!
Reading records.

The decoder of a record says of every JSON value what is read from it. Of an object, a member with
the name of a field sets the field, once, and any other member does not count; so a state can be
told by the members that set it, in any order and among others. Of a list, the items are the fields
in order, as far as there are items.
-/

namespace ExprLexer.Json

/-! ### Objects -/

section Objects

variable {isFirst : Bool} {g w : Text} {s : List Symbol} {c : Cursor}

lemma gives_nextKey (hg : IsGap isFirst g) (h : c.rest = Symbol.ofText g ++ .char '"' :: s) :
    Gives (nextKey isFirst c) true (.char '"' :: s) := by
  cases hg with
  | first hw =>
    have hskip := Cursor.rest_skipSpace hw (by decide) h
    refine ⟨c.skipSpace, ?_, hskip⟩
    simp [nextKey, Cursor.atEnd_of_rest hskip, Cursor.next?_of_rest hskip]
  | next hv hw =>
    simp only [Symbol.ofText_append, Symbol.ofText_cons, List.append_assoc, List.cons_append] at h
    have hcomma := Cursor.rest_skipSpace hv (by decide) h
    have hskip := Cursor.rest_skipSpace hw (by decide) (Cursor.rest_advance hcomma)
    refine ⟨c.skipSpace.advance.skipSpace, ?_, hskip⟩
    simp [nextKey, Cursor.atEnd_of_rest hcomma, Cursor.next?_of_rest hcomma,
      Cursor.atEnd_of_rest hskip, Cursor.next?_of_rest hskip]

lemma gives_nextKey_close (hw : IsSpacing w)
    (h : c.rest = Symbol.ofText w ++ .char '\x7d' :: s) :
    Gives (nextKey isFirst c) false (.char '\x7d' :: s) := by
  have hskip := Cursor.rest_skipSpace hw (by decide) h
  refine ⟨c.skipSpace, ?_, hskip⟩
  simp [nextKey, Cursor.atEnd_of_rest hskip, Cursor.next?_of_rest hskip]

lemma decodes_readVariant {α : Type} (known : List (Text × α)) :
    Decodes (readVariant known) (variant? known) := by
  intro x w t s c hw ht h
  cases x with
  | text name =>
    cases ht with
    | text hx =>
      refine (reaches_startValue hw (by decide) h).bind fun c hc => ?_
      rw [Cursor.next?_of_rest hc]
      exact decodes_readName known isSpacing_nil (.text hx) hc
  | object ms =>
    cases ht with
    | object hms =>
      refine (reaches_startValue hw (by decide) h).bind fun c hc => ?_
      have hadvance : c.advance.rest = Symbol.ofText _ ++ s := Cursor.rest_advance hc
      rw [Cursor.next?_of_rest hc]
      cases hms with
      | nil hv =>
        rw [Symbol.ofText_append, List.append_assoc] at hadvance
        have hskip := Cursor.rest_skipSpace hv (by decide) hadvance
        simp only [Cursor.atEnd_of_rest hskip, Cursor.next?_of_rest hskip]
        exact ⟨_, rfl⟩
      | cons hg hm hms =>
        obtain ⟨hv⟩ := hg
        obtain ⟨hk, hv', hw', hx⟩ := hm
        simp only [Symbol.ofText_append, Symbol.ofText_cons, List.append_assoc,
          List.cons_append] at hadvance
        have hskip := Cursor.rest_skipSpace hv (by decide) hadvance
        simp only [Cursor.atEnd_of_rest hskip, Cursor.next?_of_rest hskip]
        refine (decodes_readName known isSpacing_nil (.text hk) hskip).bind fun a c hc => ?_
        refine (reaches_takeColon hv' hc).bind fun c hc => ?_
        refine (decodes_readNull hw' hx hc).bind fun _ c hc => ?_
        cases hms with
        | nil hw =>
          rw [Symbol.ofText_append, List.append_assoc] at hc
          have hclose := Cursor.rest_skipSpace hw (by decide) hc
          rw [if_pos (Cursor.next?_of_rest hclose)]
          exact ⟨_, rfl, Cursor.rest_advance hclose⟩
        | cons hg _ _ =>
          obtain _ | ⟨hw, _⟩ := hg
          simp only [Symbol.ofText_append, Symbol.ofText_cons, List.append_assoc,
            List.cons_append] at hc
          have hcomma := Cursor.rest_skipSpace hw (by decide) hc
          rw [if_neg (by simp [Cursor.next?_of_rest hcomma])]
          exact ⟨_, rfl⟩
  | bool b => exact ht.refuses hw h fun c hc => by cases b <;> exact ⟨_, by rw [hc]; rfl⟩
  | null | list => exact ht.refuses hw h fun c hc => ⟨_, by rw [hc]; rfl⟩

end Objects

namespace Shape

variable {σ α : Type} {shape : Shape σ α}

/-- What the fields of a record are read from. -/
structure Decoder (shape : Shape σ α) where
  /-- The state after the field of this name has been read from a value. -/
  field : Text → σ → Json → Option σ
  decodes : ∀ f ∈ shape.fields, ∀ a, Decodes (f.read a) (field f.name a)
  isSet_field : ∀ f ∈ shape.fields, ∀ g ∈ shape.fields, ∀ {a b : σ} {x : Json},
    field f.name a x = some b → g.isSet b = (g.isSet a || g.name = f.name)

namespace Decoder

variable (d : shape.Decoder)

/-- The state after a member. -/
def member (a : σ) (m : Text × Json) : Option σ :=
  match shape.fields.find? fun f => f.name = m.1 with
  | none => some a
  | some f => if f.isSet a then none else d.field f.name a m.2

/-- The state after the items of a list, and the items for which there are no fields. -/
def items : List (Field σ) → σ → List Json → Option (σ × List Json)
  | [], a, xs => some (a, xs)
  | _ :: _, a, [] => some (a, [])
  | f :: fs, a, x :: xs => (d.field f.name a x).bind fun b => items fs b xs

/-- The record that is read from a value. -/
def value : Json → Option α
  | .object ms => (ms.foldlM d.member shape.start).bind fun a => (shape.finish a).toOption
  | .list xs => (d.items shape.fields shape.start xs).bind fun r =>
      if r.2.isEmpty then (shape.finish r.1).toOption else none
  | _ => none

section Reading

variable {d} {isFirst : Bool} {ms : List (Text × Json)} {xs : List Json} {k v w t : Text} {x : Json}
  {s : List Symbol} {c : Cursor} {a : σ}

lemma answers_readMember (hv : IsSpacing v) (hw : IsSpacing w) (hx : Spells x t)
    (h : c.rest = Symbol.ofText v ++ .char ':' :: (Symbol.ofText w ++ (Symbol.ofText t ++ s))) :
    Answers (shape.readMember k a c) (d.member a (k, x)) s := by
  rw [readMember, member]
  cases hfind : shape.fields.find? fun f => f.name = k with
  | none =>
    refine (reaches_takeColon hv h).bind fun c hc => ?_
    exact (reaches_skipValue hw hx hc).bind fun c hc => ⟨c, rfl, hc⟩
  | some f =>
    cases hset : f.isSet a with
    | true =>
      simp only [hset, if_true]
      exact ⟨_, rfl⟩
    | false =>
      simp only [hset, Bool.false_eq_true, if_false]
      refine (reaches_takeColon hv h).bind fun c hc => ?_
      exact d.decodes f (List.mem_of_find?_eq_some hfind) a hw hx hc

/-- Members are read as they are decoded. -/
lemma answers_readMembers {n : Nat} (ht : SpellsItems SpellsMember '\x7d' isFirst ms t)
    (hn : ms.length < n) (h : c.rest = Symbol.ofText t ++ s) :
    Answers (shape.readMembers n isFirst a c) (ms.foldlM d.member a) (.char '\x7d' :: s) := by
  induction ms generalizing n isFirst a t c with
  | nil =>
    obtain ⟨n, rfl⟩ : ∃ k, n = k + 1 := Nat.exists_eq_add_one.mpr hn
    cases ht with
    | nil hw =>
      rw [Symbol.ofText_append, List.append_assoc] at h
      exact (gives_nextKey_close hw h).bind fun c hc => ⟨c, rfl, hc⟩
  | cons m ms ih =>
    obtain ⟨n, rfl⟩ : ∃ k, n = k + 1 := Nat.exists_eq_add_one.mpr (by omega)
    cases ht with
    | cons hg hm hms =>
      obtain ⟨hk, hv, hw, hx⟩ := hm
      simp only [Symbol.ofText_append, Symbol.ofText_cons, List.append_assoc, List.cons_append]
        at h
      rw [List.foldlM_cons]
      refine (gives_nextKey hg h).bind fun c hc => ?_
      refine (gives_takeText hk (Cursor.rest_advance hc)).bind fun c hc => ?_
      refine (answers_readMember hv hw hx hc).bind fun b c hc => ?_
      exact ih hms (by simpa using hn) hc

/-- What is read of a list of fields, and what of the list is still ahead. -/
lemma answers_readFields_bind {β : Type} {u : List Symbol} {fs : List (Field σ)} {count : Nat}
    {f : (σ × Nat) × Cursor → Except ReadError (β × Cursor)} {g : σ × List Json → Option β}
    (hfs : ∀ f ∈ fs, f ∈ shape.fields) (ht : SpellsItems Spells ']' (count = 0) xs t)
    (h : c.rest = Symbol.ofText t ++ s)
    (hf : ∀ {b n c xs isFirst t}, SpellsItems Spells ']' isFirst xs t →
      c.rest = Symbol.ofText t ++ s → Answers (f ((b, n), c)) (g (b, xs)) u) :
    Answers (readFields count fs a c >>= f) ((d.items fs a xs).bind g) u := by
  induction fs generalizing count a xs t c with
  | nil => exact hf ht h
  | cons field fs ih =>
    obtain ⟨hfield, hfs⟩ := List.forall_mem_cons.mp hfs
    rw [readFields, bind_assoc]
    cases ht with
    | nil hw =>
      rw [Symbol.ofText_append, List.append_assoc] at h
      have hend : SpellsItems Spells ']' true [] [']'] := .nil isSpacing_nil
      exact (gives_nextItem_close hw h).bind fun c hc => hf hend hc
    | cons hg hx hxs =>
      obtain ⟨v, rfl⟩ := hx.exists_cons
      simp only [Symbol.ofText_append, List.append_assoc] at h
      refine (gives_nextItem hg (isSpace_initial _) (initial_ne_close _) h).bind fun c hc => ?_
      simp only [items, Option.bind_assoc, if_true, bind_assoc]
      refine (d.decodes field hfield a isSpacing_nil hx hc).bind fun b c hc => ?_
      exact ih hfs hxs hc

/-- **The reader of a record** reads what the decoder says. -/
lemma decodes_read (d : shape.Decoder) : Decodes shape.read d.value := by
  intro x w t s c hw ht h
  cases x with
  | list xs =>
    cases ht with
    | list hxs =>
      refine (reaches_startValue hw (by decide) h).bind fun c hc => ?_
      rw [Cursor.next?_of_rest hc]
      -- the list has to end where there are no more fields
      refine answers_readFields_bind (fun _ hf => hf) hxs (Cursor.rest_advance hc) ?_
      intro b n c xs isFirst t ht hc
      cases hfinish : shape.finish b with
      | ok y =>
        cases xs with
        | nil =>
          cases ht with
          | nil hw =>
            rw [Symbol.ofText_append, List.append_assoc] at hc
            simp only [hfinish]
            exact (reaches_endList hw hc).bind fun c hc => ⟨c, rfl, hc⟩
        | cons x xs =>
          obtain ⟨e, hend⟩ := ht.endList_eq_error hc
          simp only [hfinish, hend]
          exact ⟨e, rfl⟩
      | error name =>
        simp only [hfinish]
        cases xs with
        | nil | cons => exact ⟨_, rfl⟩
  | object ms =>
    cases ht with
    | object hms =>
      refine (reaches_startValue hw (by decide) h).bind fun c hc => ?_
      rw [Cursor.next?_of_rest hc]
      have hadvance : c.advance.rest = Symbol.ofText _ ++ s := Cursor.rest_advance hc
      have hfuel := hms.length_lt_rest (fun _ _ => SpellsMember.isVisible) hadvance
      refine (answers_readMembers hms hfuel hadvance).bind fun a c hc => ?_
      -- behind the members stands the bracket, so the object is closed in any case
      have hskip := Cursor.rest_skipSpace isSpacing_nil (by decide) hc
      have hclose : closeObject c = (c.skipSpace.advance, none) := by
        simp [closeObject, Cursor.next?_of_rest hskip]
      simp only [hclose]
      cases shape.finish a with
      | ok y => exact ⟨_, rfl, Cursor.rest_advance hskip⟩
      | error name => exact ⟨_, rfl⟩
  | bool b => exact ht.refuses hw h fun c hc => by cases b <;> exact ⟨_, by rw [hc]; rfl⟩
  | null | text => exact ht.refuses hw h fun c hc => ⟨_, by rw [hc]; rfl⟩

end Reading

/-! ### States told by members -/

variable {d} {ms others : List (Text × Json)} {m : Text × Json} {key : Text} {f : Field σ} {a b : σ}

lemma member_unknown (hm : m.1 ∉ shape.fields.map Field.name) : d.member a m = some a := by
  have hfind : (shape.fields.find? fun f => f.name = m.1) = none := by
    simpa [List.find?_eq_none] using hm
  rw [member, hfind]

/-- A member sets the field of its name, and nothing else. -/
lemma isSet_member (hb : d.member a m = some b) (hf : f ∈ shape.fields) :
    f.isSet b = (f.isSet a || f.name = m.1) := by
  rw [member] at hb
  cases hfind : shape.fields.find? fun g => g.name = m.1 with
  | none =>
    have hname : f.name ≠ m.1 := by simpa using List.find?_eq_none.mp hfind f hf
    cases hfind ▸ hb
    simp [hname]
  | some g =>
    have hname : g.name = m.1 := by simpa using List.find?_some hfind
    simp only [hfind] at hb
    split_ifs at hb
    rw [← hname]
    exact d.isSet_field g (List.mem_of_find?_eq_some hfind) f hf hb

/-- No field is set twice. -/
lemma count_le_one (hfind : (shape.fields.find? fun f => f.name = key) = some f)
    (hms : ms.foldlM d.member a = some b) :
    (ms.map Prod.fst).count key + (f.isSet a).toNat ≤ 1 := by
  have hname : f.name = key := by simpa using List.find?_some hfind
  induction ms generalizing a with
  | nil => simpa using Bool.toNat_le (f.isSet a)
  | cons m ms ih =>
    rw [List.foldlM_cons] at hms
    obtain ⟨c, hc, hms⟩ := Option.bind_eq_some_iff.mp hms
    have hrest := ih hms
    have hset := isSet_member hc (List.mem_of_find?_eq_some hfind)
    rw [hname] at hset
    rw [List.map_cons, List.count_cons]
    by_cases hkey : key = m.1
    · subst hkey
      have hunset : f.isSet a = false := by
        by_contra htrue
        simp [member, hfind, htrue] at hc
      simpa [hset, hunset] using hrest
    · simpa [hset, hkey, Ne.symm hkey] using hrest

lemma value_object_of_repeated (hkey : key ∈ shape.fields.map Field.name)
    (hcount : 2 ≤ (ms.map Prod.fst).count key) : d.value (.object ms) = none := by
  obtain ⟨f, hfind⟩ : ∃ f, (shape.fields.find? fun f => f.name = key) = some f := by
    obtain ⟨f, hf, rfl⟩ := List.mem_map.mp hkey
    exact Option.isSome_iff_exists.mp (List.find?_isSome.mpr ⟨f, hf, by simp⟩)
  rw [value, Option.bind_eq_none_iff]
  intro b hb
  have hle := count_le_one hfind hb
  omega

/-- Every state is told by members, each of which can be the last to be read. -/
structure Tells (d : shape.Decoder) (members : σ → List (Text × Json)) : Prop where
  start : ∀ a, members a = [] → a = shape.start
  last : ∀ a, ∀ m ∈ members a, ∃ b, (members a).Perm (m :: members b) ∧ d.member b m = some a

/-- **A state is read back** from its members, in any order and among others. -/
lemma Tells.foldlM_eq {members : σ → List (Text × Json)} (hd : d.Tells members)
    (hothers : ∀ m ∈ others, m.1 ∉ shape.fields.map Field.name)
    (hms : ms.Perm (members a ++ others)) : ms.foldlM d.member shape.start = some a := by
  induction ms using List.reverseRecOn generalizing a others with
  | nil =>
    have hnil := List.nil_perm.mp hms
    rw [hd.start a (List.append_eq_nil_iff.mp hnil).1]
    rfl
  | append_singleton ms m ih =>
    rw [List.foldlM_append]
    have hlast := (List.perm_append_singleton m ms).symm.trans hms
    -- the last member is one of the state, or one that does not count
    rcases List.mem_append.mp (hlast.subset List.mem_cons_self) with hm | hm
    · obtain ⟨b, hb, hread⟩ := hd.last a m hm
      have hms := (hlast.trans (hb.append_right others)).cons_inv
      simp [ih hothers hms, hread]
    · obtain ⟨us, vs, rfl⟩ := List.append_of_mem hm
      have hmiddle : (members a ++ (us ++ m :: vs)).Perm (m :: (members a ++ (us ++ vs))) := by
        rw [← List.append_assoc, ← List.append_assoc]
        exact List.perm_middle
      have hms := (hlast.trans hmiddle).cons_inv
      have hrest : ∀ m ∈ us ++ vs, m.1 ∉ shape.fields.map Field.name :=
        fun n hn => hothers n (by simp at hn ⊢; tauto)
      simp [ih hrest hms, member_unknown (hothers m hm)]

end Decoder

end Shape

end ExprLexer.Json
