import ExprLexer.Regex.Program

/-!
Running a program on a text, all its ways at once.

At each place in the text there is a list of places in the program, most preferred first. `close`
follows those that read nothing, and goes to each place in the program once: a way that comes back
to one is given up, also if it was a more preferred way that is still being followed. A way that is
done makes all less preferred ones pointless; the more preferred ones go on, and overrule it if they
end at all.
-/

namespace ExprLexer.Program

/-! ### Following what reads nothing -/

/-- A mark that is set was not there before. -/
theorem count_setIfInBounds_lt {seen : Array Bool} {i : Nat} (h : seen[i]? = some false) :
    (seen.setIfInBounds i true).count false < seen.count false := by
  obtain ⟨hi, h⟩ := Array.getElem?_eq_some_iff.mp h
  have pos : 0 < seen.count false := Array.count_pos_iff.mpr (h ▸ Array.getElem_mem hi)
  rw [Array.setIfInBounds_def, dif_pos hi, Array.count_set, h]
  exact Nat.sub_lt pos Nat.one_pos

/-- The operations that read or are done, among those that can be reached from some places without
reading. `seen` marks the places that have been reached, and `out` holds the operations found so
far, last first. -/
def closeFrom (ops : Array Op) (x : Context) (seen : Array Bool) (out : List Nat) :
    List Nat → List Nat
  | [] => out.reverse
  | i :: todo =>
    if _h : seen[i]? = some false then
      let seen := seen.setIfInBounds i true
      match ops[i]? with
      | some (.split first second) => closeFrom ops x seen out (first :: second :: todo)
      | some (.look a next) => closeFrom ops x seen out (if a.holds x then next :: todo else todo)
      | _ => closeFrom ops x seen (i :: out) todo
    else closeFrom ops x seen out todo
termination_by todo => 3 * seen.count false + todo.length
decreasing_by
  all_goals
    first
    | have := count_setIfInBounds_lt _h
      try split
      all_goals
        simp only [List.length_cons]
        omega
    | simp

variable (p : Program)

/-- What can be reached from some places between two characters. -/
def close (x : Context) (places : List Nat) : List Nat :=
  closeFrom p.ops x (Array.replicate p.ops.size false) [] places

/-! ### Reading -/

def isDone (place : Nat) : Bool := p.ops[place]? = some .done

/-- Where the operation at a place goes on if it reads `c`. -/
def readAt? (c : Char) (place : Nat) : Option Nat :=
  match p.ops[place]? with
  | some (.read s next) => if s.contains c then some next else none
  | _ => none

/-- Where those go on that read `c`, as far as they are preferred to a way that is done. -/
def reads (c : Char) (places : List Nat) : List Nat :=
  (places.takeWhile (!p.isDone ·)).filterMap (p.readAt? c)

/-- The end of the match in `text`, counted from `pos`, for a run that has come to some places
behind `before`; `found` is the best match so far. -/
def run (before : Option Char) (places : List Nat) (pos : Nat) (found : Option Nat) :
    Text → Option Nat
  | [] => if (p.close ⟨before, none⟩ places).any p.isDone then some pos else found
  | c :: text =>
    if places.isEmpty then found
    else
      let reached := p.close ⟨before, some c⟩ places
      run (some c) (p.reads c reached) (pos + c.utf8Size)
        (if reached.any p.isDone then some pos else found) text

/-- The end of the match in a text, in bytes. -/
def find? (text : Text) : Option Nat := p.run none [p.entry] 0 none text

end ExprLexer.Program
