import ExprLexer.Pattern
import ExprLexer.Proofs.Regex.Emission
import Mathlib

/-!
Where the match of a pattern starts.

A pattern is read in a group behind a start anchor. No step of the reader depends on the groups
around the one being read, so a pattern that can be read by itself is read alike in that group; the
parenthesis behind it closes the group, and the anchor stands in front of all that was read. A
pattern that closes the group early keeps only its first part behind the anchor.
-/

namespace ExprLexer

namespace Regex

/-! ### What stays in front -/

lemma alternation_singleton {r : Regex} (h : r.branches = [r]) : alternation [r] = r := by
  simp [alternation, h, choice]

/-- A condition stays in front of what follows it. -/
lemma concat_look (a : Assertion) (rs : List Regex) :
    concat (look a :: rs) = look a ∨ ∃ r, concat (look a :: rs) = seq (look a) r := by
  have hconcat : concat (look a :: rs) =
      ofItems (look a :: (rs.flatMap items).foldr consItem []) := rfl
  rw [hconcat]
  cases (rs.flatMap items).foldr consItem [] with
  | nil => exact .inl rfl
  | cons r rs => exact .inr ⟨_, rfl⟩

/-- The anchor holds for all that follows it in a sequence. -/
lemma isAnchored_alternation_concat (rs : List Regex) :
    (alternation [concat (look .textStart :: rs)]).isAnchored = true := by
  obtain h | ⟨r, h⟩ := concat_look .textStart rs
  · rw [h, alternation_singleton rfl]
    rfl
  · rw [h, alternation_singleton rfl]
    rfl

end Regex

namespace Pattern

namespace State

/-! ### Reading in further groups -/

/-- The same reading, inside further groups. -/
def inside (s : State) (fs : List Frame) : State := { s with outer := s.outer ++ fs }

variable {s s' : State} {c : Char} (fs : List Frame)

@[simp] lemma flags_inside (s : State) : (s.inside fs).flags = s.flags := rfl
@[simp] lemma items_inside (s : State) : (s.inside fs).items = s.items := rfl
@[simp] lemma mode_inside (s : State) : (s.inside fs).mode = s.mode := rfl
@[simp] lemma names_inside (s : State) : (s.inside fs).names = s.names := rfl
@[simp] lemma comment_inside (s : State) : (s.inside fs).comment = s.comment := rfl
@[simp] lemma outer_inside (s : State) : (s.inside fs).outer = s.outer ++ fs := rfl

@[simp] lemma withMode_inside (s : State) (m : Mode) :
    (s.inside fs).withMode m = (s.withMode m).inside fs := rfl

@[simp] lemma push_inside (s : State) (r : Regex) (depth : Nat) :
    (s.inside fs).push r depth = (s.push r depth).inside fs := rfl

@[simp] lemma pushLook_inside (s : State) (a : Assertion) :
    (s.inside fs).pushLook a = (s.pushLook a).inside fs := rfl

@[simp] lemma pushEdge_inside (s : State) (e : WordEdge) :
    (s.inside fs).pushEdge e = (s.pushEdge e).inside fs := rfl

@[simp] lemma pushSet_inside (s : State) (set : CharSet) (depth : Nat) :
    (s.inside fs).pushSet set depth = (s.pushSet set depth).inside fs := rfl

@[simp] lemma nextBranch_inside (s : State) :
    (s.inside fs).nextBranch = s.nextBranch.inside fs := rfl

@[simp] lemma openGroup_inside (s : State) (f : Flags) (plain : Bool) :
    (s.inside fs).openGroup f plain = (s.openGroup f plain).inside fs := rfl

@[simp] lemma skip_inside (s : State) (c : Char) :
    (s.inside fs).skip c = (s.skip c).inside fs := rfl

@[simp] lemma isSpace_inside (s : State) (c : Char) : (s.inside fs).isSpace c = s.isSpace c := rfl

@[simp] lemma repeatLast_inside (s : State) (least : Nat) (extra : Option Nat) (lazily : Bool) :
    (s.inside fs).repeatLast least extra lazily =
      (s.repeatLast least extra lazily).inside fs := by
  unfold repeatLast
  rw [items_inside]
  split <;> rfl

/-! The steps that close no group go on with what they would go on with, in the further groups. -/

@[simp] lemma pushPrimitive?_inside (s : State) (p : Primitive) :
    (s.inside fs).pushPrimitive? p = (s.pushPrimitive? p).map (·.inside fs) := by
  simp [pushPrimitive?, Function.comp_def]

@[simp] lemma startRepeat?_inside (s : State) (m : Mode) :
    (s.inside fs).startRepeat? m = (s.startRepeat? m).map (·.inside fs) := by
  have hcan : (s.inside fs).canRepeat = s.canRepeat := rfl
  cases h : s.canRepeat <;> simp [startRepeat?, hcan, h]

@[simp] lemma openNamed?_inside (s : State) (f : Flags) (name : Text) :
    (s.inside fs).openNamed? f name = (s.openNamed? f name).map (·.inside fs) := by
  by_cases h : name ∈ s.names <;> simp [openNamed?, h]
  rfl

lemma countStep_inside (s : State) (k : Count) (c : Char) :
    (s.inside fs).countStep k c = (s.countStep k c).map (·.inside fs) := by
  unfold countStep
  rcases k.step c with _ | _ | _ <;> rfl

lemma edgeNameStep_inside (s : State) (read : Text) (c : Char) :
    (s.inside fs).edgeNameStep read c = (s.edgeNameStep read c).map (·.inside fs) := by
  simp only [edgeNameStep, pushEdge_inside, countStep_inside, withMode_inside]
  split_ifs <;> simp [Function.comp_def, funext (pushEdge_inside fs s)]

lemma escapeStep_inside (s : State) (e : Escape) (c : Char) :
    (s.inside fs).escapeStep e c = (s.escapeStep e c).map (·.inside fs) := by
  simp only [escapeStep, flags_inside, withMode_inside, pushPrimitive?_inside]
  split_ifs
  · rfl
  · rcases e.step s.flags c with _ | _ | _ <;> rfl

lemma bracketStep_inside (s : State) (b : Bracket) (c : Char) :
    (s.inside fs).bracketStep b c = (s.bracketStep b c).map (·.inside fs) := by
  unfold bracketStep
  rw [flags_inside]
  rcases b.step s.flags c with _ | _ | _ <;> rfl

/-- A group that can be closed is one of those that were there before. -/
lemma closeGroup?_inside (h : s.closeGroup? = some s') :
    (s.inside fs).closeGroup? = some (s'.inside fs) := by
  unfold closeGroup? at h ⊢
  rw [outer_inside]
  cases houter : s.outer with
  | nil => simp [houter] at h
  | cons g outer =>
    rw [houter] at h
    cases h
    rfl

/-- Only a closing parenthesis looks at the groups around. -/
lemma itemStep_inside_of_ne (s : State) (hc : c ≠ ')') :
    (s.inside fs).itemStep c = (s.itemStep c).map (·.inside fs) := by
  unfold itemStep
  split <;> simp_all [Function.comp_def]

lemma itemStep_inside (h : s.itemStep c = some s') :
    (s.inside fs).itemStep c = some (s'.inside fs) := by
  by_cases hc : c = ')'
  · subst hc
    exact closeGroup?_inside fs h
  · rw [itemStep_inside_of_ne fs s hc, h, Option.map_some]

lemma openingStep_inside {o : Opening} (h : s.openingStep o c = some s') :
    (s.inside fs).openingStep o c = some (s'.inside fs) := by
  cases ho : o with
  | start =>
    rw [ho, openingStep] at h
    rw [openingStep]
    split_ifs at h ⊢
    · cases h
      rfl
    · exact itemStep_inside fs h
  | _ =>
    rw [ho] at h
    obtain ⟨result, hresult, h⟩ := Option.bind_eq_some_iff.mp h
    refine Option.bind_eq_some_iff.mpr ⟨result, hresult, ?_⟩
    match result with
    | .pending _ | .group _ none | .directive _ =>
      cases h
      rfl
    | .group f (some name) =>
      change s.openNamed? f name = some s' at h
      change (s.inside fs).openNamed? f name = some (s'.inside fs)
      rw [openNamed?_inside, h, Option.map_some]

lemma consume_inside (h : s.consume c = some s') :
    (s.inside fs).consume c = some (s'.inside fs) := by
  unfold consume at h ⊢
  rw [mode_inside]
  cases hmode : s.mode <;> simp only [hmode] at h ⊢
  case item => exact itemStep_inside fs h
  case count k => rw [countStep_inside, h, Option.map_some]
  case edgeName read => rw [edgeNameStep_inside, h, Option.map_some]
  case escape e => rw [escapeStep_inside, h, Option.map_some]
  case opening o => exact openingStep_inside fs h
  case bracket b => rw [bracketStep_inside, h, Option.map_some]
  all_goals cases h

lemma enter_inside (h : s.enter c = some s') : (s.inside fs).enter c = some (s'.inside fs) := by
  unfold enter at h ⊢
  rw [isSpace_inside, skip_inside]
  split_ifs at h ⊢
  · cases h
    rfl
  · exact consume_inside fs h

/-- **A step does not depend on the groups around.** -/
lemma step_inside (h : s.step c = some s') : (s.inside fs).step c = some (s'.inside fs) := by
  cases hcomment : s.comment with
  | true =>
    simp only [step, hcomment, comment_inside, if_true] at h ⊢
    cases h
    rfl
  | false =>
    cases hmode : s.mode <;>
      simp only [step, hcomment, comment_inside, hmode, mode_inside, Bool.false_eq_true, if_false]
        at h ⊢
    case repeated least extra counted =>
      rw [repeatLast_inside, repeatLast_inside, isSpace_inside, skip_inside]
      split_ifs at h ⊢
      · rw [Option.some.inj h]
      · rw [Option.some.inj h]
      · exact enter_inside fs h
    case edge =>
      rw [withMode_inside, pushEdge_inside]
      split_ifs at h ⊢
      · rw [Option.some.inj h]
      · exact enter_inside fs h
    case bracket b =>
      rw [flags_inside]
      obtain ⟨settled, hsettled, h⟩ := Option.bind_eq_some_iff.mp h
      refine Option.bind_eq_some_iff.mpr ⟨settled, hsettled, ?_⟩
      cases settled with
      | reads b =>
        cases h
        rfl
      | leaves b => exact enter_inside fs h
    all_goals exact enter_inside fs h

/-- **Nor does the reading of a text.** -/
lemma run?_inside {t : Text} (h : s.run? t = some s') :
    (s.inside fs).run? t = some (s'.inside fs) := by
  induction t generalizing s with
  | nil =>
    cases h
    rfl
  | cons c t ih =>
    rw [run?_cons] at h ⊢
    obtain ⟨u, hu, h⟩ := Option.bind_eq_some_iff.mp h
    rw [step_inside fs hu]
    exact ih h

/-! ### The end of a group -/

lemma outer_repeatLast (s : State) (least : Nat) (extra : Option Nat) (lazily : Bool) :
    (s.repeatLast least extra lazily).outer = s.outer := by
  unfold repeatLast
  split <;> rfl

/-- A reading can end only outside all groups, and between two items. -/
lemma of_finish?_eq_some {p : Part} (h : s.finish? = some p) :
    s.outer = [] ∧
      (s.mode = .item ∧ s.body = p ∨
        (∃ least extra counted, s.mode = .repeated least extra counted ∧
          (s.repeatLast least extra false).body = p) ∨
        s.mode = .edge ∧ (s.pushEdge .boundary).body = p) := by
  obtain ⟨u, hu, h⟩ := Option.bind_eq_some_iff.mp h
  obtain ⟨houter, hbody⟩ : u.outer = [] ∧ u.body = p := by
    split_ifs at h with hempty
    exact ⟨List.isEmpty_iff.mp hempty, Option.some.inj h⟩
  split at hu
  · rename_i hmode
    cases hu
    exact ⟨houter, .inl ⟨hmode, hbody⟩⟩
  · rename_i least extra counted hmode
    cases hu
    exact ⟨outer_repeatLast s .. ▸ houter, .inr (.inl ⟨least, extra, counted, hmode, hbody⟩)⟩
  · rename_i hmode
    cases hu
    exact ⟨houter, .inr (.inr ⟨hmode, hbody⟩)⟩
  · cases hu

lemma isSpace_close (s : State) : s.isSpace ')' = false := by
  have hblank : Text.isBlank ')' = false := by decide
  simp [isSpace, hblank]

/-- Between two items a parenthesis closes a group. -/
lemma enter_close (hmode : s.mode = .item) : s.enter ')' = s.closeGroup? := by
  simp [enter, isSpace_close, consume, hmode, itemStep]

/-- A repetition is complete when a parenthesis comes. -/
lemma closeGroup?_of_repeated {least : Nat} {extra : Option Nat} {counted : Bool}
    (hmode : s.mode = .repeated least extra counted)
    (h : (s.repeatLast least extra false).enter ')' = some s') :
    (s.repeatLast least extra false).closeGroup? = some s' := by
  unfold repeatLast at h ⊢
  split at h
  · rwa [enter_close rfl] at h
  · simp [enter, isSpace_close, consume, hmode] at h

/-- Where a reading can end, a parenthesis closes the group around what has been read. In a comment
it does not count. -/
lemma step_close {p : Part} (hfinish : s.finish? = some p)
    (h : (s.inside fs).step ')' = some s') :
    s' = s.inside fs ∨
      ∃ u : State, u.outer = [] ∧ u.body = p ∧ (u.inside fs).closeGroup? = some s' := by
  obtain ⟨houter, hmode⟩ := of_finish?_eq_some hfinish
  cases hcomment : s.comment with
  | true =>
    left
    simp only [step, hcomment, comment_inside, if_true] at h
    cases h
    simp [inside, hcomment]
  | false =>
    right
    obtain ⟨hmode, hbody⟩ | ⟨least, extra, counted, hmode, hbody⟩ | ⟨hmode, hbody⟩ := hmode <;>
      simp only [step, comment_inside, hcomment, mode_inside, hmode, isSpace_close,
        Bool.false_eq_true, if_false, Char.reduceEq] at h
    · rw [enter_close (s := s.inside fs) hmode] at h
      exact ⟨s, houter, hbody, h⟩
    · have h := closeGroup?_of_repeated (s := s.inside fs) hmode h
      rw [repeatLast_inside] at h
      exact ⟨_, (outer_repeatLast ..).trans houter, hbody, h⟩
    · rw [enter_close rfl] at h
      exact ⟨s.pushEdge .boundary, houter, hbody, h⟩

/-- What stands in front of a group that has been closed stands in front of what was in it. -/
lemma of_closeGroup? {g : Frame} (houter : s.outer = [])
    (h : (s.inside [g]).closeGroup? = some s') :
    ∃ depth, s'.items = .part ⟨g.number.elim s.body.regex (.capture · s.body.regex), depth⟩ ::
      g.items ∧ s'.branches = g.branches ∧ s'.mode = .item := by
  simp only [closeGroup?, outer_inside, houter, List.nil_append] at h
  cases h
  exact ⟨_, rfl, rfl, rfl⟩

end State

/-! ### The anchor -/

/-- The pattern can be read by itself. So what it opens it closes, and it closes nothing else. -/
def IsWhole (pattern : Text) : Prop := ((State.start.run? pattern).bind State.finish?).isSome

instance (pattern : Text) : Decidable (IsWhole pattern) :=
  inferInstanceAs (Decidable (_ = true))

/-- The group that the pattern is put into, behind the anchor. -/
def anchorFrame : Frame := ⟨.initial, [], [.part ⟨.look .textStart, 0⟩], none⟩

lemma run?_anchor : State.start.run? "^(?:".toList = some (State.start.inside [anchorFrame]) := by
  rfl

/-- A group behind the anchor, with nothing behind it. -/
lemma regex_body {s : State} {p : Part} (hitems : s.items = .part p :: anchorFrame.items)
    (hbranches : s.branches = anchorFrame.branches) :
    s.body.regex = .alternation [.concat [.look .textStart, p.regex]] := by
  have hbranch : s.branch.regex = .concat [.look .textStart, p.regex] := by
    simp [State.branch, hitems, anchorFrame, Item.regex]
  simp [State.body, hbranches, anchorFrame, hbranch]

lemma of_parse_eq_ok {t : Text} {r : Regex} (h : parse t = .ok r) :
    ∃ s p, State.start.run? t = some s ∧ s.finish? = some p ∧ p.regex = r := by
  unfold parse at h
  split at h
  · cases h
  · rename_i p hp
    obtain ⟨s, hs, hp⟩ := Option.bind_eq_some_iff.mp hp
    split_ifs at h
    exact ⟨s, p, hs, hp, Except.ok.inj h⟩

/-- **What can be read by itself is read alike behind the anchor**, and nothing comes behind it. -/
lemma eq_of_parse_anchored {pattern : Text} {s : State} {q : Part} {r : Regex}
    (hrun : State.start.run? pattern = some s) (hfinish : s.finish? = some q)
    (h : parse (anchored pattern) = .ok r) :
    r = .alternation [.concat [.look .textStart, q.regex]] := by
  obtain ⟨s', p, hs', hfinish', rfl⟩ := of_parse_eq_ok h
  have hclose : (s.inside [anchorFrame]).step ')' = some s' := by
    rw [anchored, State.run?_append, State.run?_append, run?_anchor, Option.bind_some,
      State.run?_inside _ hrun] at hs'
    simpa using hs'
  rcases State.step_close _ hfinish hclose with rfl | ⟨u, houter, rfl, hu⟩
  · -- the parenthesis stands in a comment, so the group is never closed
    simpa using (State.of_finish?_eq_some hfinish').1
  · -- the group has been closed, and nothing comes behind it
    obtain ⟨depth, hitems, hbranches, hmode⟩ := State.of_closeGroup? houter hu
    have hbody : p = s'.body := by
      obtain ⟨houter', -⟩ := State.of_finish?_eq_some hfinish'
      simpa [State.finish?, hmode, houter'] using hfinish'.symm
    rw [hbody, regex_body hitems hbranches]
    rfl

/-- **A pattern that can be read by itself stays behind the anchor.** -/
theorem isAnchored_of_isWhole {pattern : Text} {r : Regex} (hwhole : IsWhole pattern)
    (h : parse (anchored pattern) = .ok r) : r.isAnchored = true := by
  obtain ⟨q, hq⟩ := Option.isSome_iff_exists.mp hwhole
  obtain ⟨s, hs, hfinish⟩ := Option.bind_eq_some_iff.mp hq
  rw [eq_of_parse_anchored hs hfinish h]
  exact Regex.isAnchored_alternation_concat _

/-! ### Where a match starts -/

/-- **The answer is the end of a match, and the match is all that comes before it if the pattern can
be read by itself.** Otherwise the match can start behind some text. -/
theorem exists_matches_of_matchEnd? {pattern t : Text} {p : Pattern} {n : Nat}
    (hcompile : compile pattern = .ok p) (hend : p.matchEnd? t = some n) :
    ∃ r, parse (anchored pattern) = .ok r ∧ ∃ before m after, before ++ m ++ after = t ∧
      Text.byteLength (before ++ m) = n ∧
      r.Matches ⟨before, m ++ after⟩ ⟨before ++ m, after⟩ ∧ (IsWhole pattern → before = []) := by
  cases hr : parse (anchored pattern) with
  | error e => simp [compile, hr, Except.map] at hcompile
  | ok r =>
    refine ⟨r, rfl, ?_⟩
    obtain rfl : ⟨anchored pattern, .ofRegex r⟩ = p := by
      simpa [compile, hr, Except.map] using hcompile
    obtain ⟨⟨start, rest⟩, ⟨stop, after⟩, ⟨before, hb, ht⟩, hfront, hmatch, hn⟩ :=
      Program.exists_matches_of_find? hend
    obtain ⟨m, hm, ha⟩ := hmatch.exists_passes
    simp only [Spot.front, List.nil_append] at hb ht hm ha
    subst hb ht hm ha
    refine ⟨start, m, after, List.append_assoc .., hn, hmatch, fun hwhole => ?_⟩
    exact congrArg Spot.before (hfront (isAnchored_of_isWhole hwhole hr))

/-- The end is counted in bytes, of which the accented letters take two. -/
theorem matches_front_of_accents :
    ∃ p, compile "é+|b".toList = .ok p ∧ p.matchEnd? "ééb".toList = some 4 ∧
      ∃ r, parse (anchored "é+|b".toList) = .ok r ∧ ∃ m after, m ++ after = "ééb".toList ∧
        Text.byteLength m = 4 ∧ r.Matches ⟨[], m ++ after⟩ ⟨m, after⟩ := by
  let r : Regex :=
    .seq (.look .textStart) (.alt (.rep (.literal ['é']) 1 none true) (.literal ['b']))
  have hcompile : compile "é+|b".toList = .ok ⟨anchored "é+|b".toList, .ofRegex r⟩ := by rfl
  have hend : matchEnd? ⟨anchored "é+|b".toList, .ofRegex r⟩ "ééb".toList = some 4 := by cbv
  obtain ⟨r', hr', before, m, after, ht, hn, hmatch, hwhole⟩ :=
    exists_matches_of_matchEnd? hcompile hend
  cases hwhole (by decide)
  exact ⟨_, hcompile, hend, r', hr', m, after, ht, hn, hmatch⟩

/-- Not every match is all that comes before its end. In `a)|(?:b` the parenthesis closes the group,
so the second branch is not behind the anchor, and it matches at the end of `xb`. -/
theorem not_forall_matches_front :
    ¬ ∀ (pattern t : Text) (p : Pattern) (n : Nat), compile pattern = .ok p →
      p.matchEnd? t = some n → ∃ r, parse (anchored pattern) = .ok r ∧ ∃ m after, m ++ after = t ∧
        Text.byteLength m = n ∧ r.Matches ⟨[], m ++ after⟩ ⟨m, after⟩ := by
  intro h
  let r : Regex := .alt (.seq (.look .textStart) (.literal ['a'])) (.literal ['b'])
  have hparse : parse (anchored "a)|(?:b".toList) = .ok r := by rfl
  have hcompile : compile "a)|(?:b".toList = .ok ⟨anchored "a)|(?:b".toList, .ofRegex r⟩ := by rfl
  have hend : matchEnd? ⟨anchored "a)|(?:b".toList, .ofRegex r⟩ "xb".toList = some 2 := by cbv
  obtain ⟨r', hr', m, after, ht, -, hmatch⟩ := h _ _ _ _ hcompile hend
  cases hparse.symm.trans hr'
  rw [ht] at hmatch
  -- neither branch begins with the first character
  rcases hmatch with ⟨_, ⟨-, rfl⟩, -, hafter⟩ | ⟨-, hafter⟩ <;> simp at hafter

end Pattern

end ExprLexer
