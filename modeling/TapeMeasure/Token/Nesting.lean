import TapeMeasure.Text.Ascii

/- Round brackets. A bracket is closed by the nearest closing bracket with as many opening as
   closing brackets in between. At most 32 brackets may be open at any place of a text; a closing
   bracket with nothing open changes no count. -/
set_option autoImplicit false

namespace TapeMeasure.Nesting

def maxDepth : Nat := 32

-- Cuts a text at the bracket that closes the outermost of `depth + 1` open ones: what stands
-- before that bracket, and what stands behind it.
def splitAtClose (depth : Nat) : Text → Option (Text × Text)
  | [] => none
  | c :: rest =>
      if c = ')' then
        match depth with
        | 0 => some ([], rest)
        | outer + 1 => (splitAtClose outer rest).map fun cut => (c :: cut.1, cut.2)
      else if c = '(' then
        (splitAtClose (depth + 1) rest).map fun cut => (c :: cut.1, cut.2)
      else
        (splitAtClose depth rest).map fun cut => (c :: cut.1, cut.2)

-- The interior of a group whose opening bracket has just been read, and the text behind it.
def interior (cs : Text) : Option (Text × Text) := splitAtClose 0 cs

-- Looks for an opening bracket that finds `maxDepth` brackets open: its position, and the text
-- from the outermost open bracket on. `outer` is that text while any bracket is open.
def excessFrom (depth position : Nat) (outer : Text) : Text → Option (Nat × Text)
  | [] => none
  | c :: rest =>
      if c = '(' then
        if depth = maxDepth then some (position, outer)
        else excessFrom (depth + 1) (position + 1) (if depth = 0 then c :: rest else outer) rest
      else if c = ')' then excessFrom (depth - 1) (position + 1) outer rest
      else excessFrom depth (position + 1) outer rest

def excess (cs : Text) : Option (Nat × Text) := excessFrom 0 0 [] cs

theorem split_at_close_append {depth : Nat} {cs inner after : Text}
    (found : splitAtClose depth cs = some (inner, after)) : cs = inner ++ ')' :: after := by
  induction cs generalizing depth inner after with
  | nil => simp [splitAtClose] at found
  | cons c rest ih =>
      have step {next : Nat}
          (cut : (splitAtClose next rest).map (fun cut => (c :: cut.1, cut.2)) =
            some (inner, after)) :
          c :: rest = inner ++ ')' :: after := by
        obtain ⟨⟨before, behind⟩, split, same⟩ := Option.map_eq_some_iff.mp cut
        simp only [Prod.mk.injEq] at same
        obtain ⟨rfl, rfl⟩ := same
        rw [ih split, List.cons_append]
      unfold splitAtClose at found
      split at found
      · rename_i closing
        cases depth with
        | zero =>
            simp only [Option.some.injEq, Prod.mk.injEq] at found
            obtain ⟨rfl, rfl⟩ := found
            simp [closing]
        | succ outer => exact step found
      · split at found
        · exact step found
        · exact step found

theorem interior_append {cs inner after : Text} (found : interior cs = some (inner, after)) :
    cs = inner ++ ')' :: after := split_at_close_append found

end TapeMeasure.Nesting
