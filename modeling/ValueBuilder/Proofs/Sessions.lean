import Mathlib.Data.List.Infix
import Mathlib.Data.Nat.Find
import ValueBuilder.Listing

/-!
# Sessions

The listing of a session comes out well nested, in whatever order blocks are opened and closed, and
whether they are left or abandoned. Each kind of step is taken apart once: `Step.nesting` says what
it does to the open blocks, and `Session.writing` what it writes and at which depth. No step changes
the margin of a level or the depth outside of all blocks (`Session.ground`), so in a run the depth
counts the open blocks.

A step closes a block if it is the first one after which no more blocks are open than before the
block was opened (`Listing.Closes`). Until then the block keeps its place in the stack, so the step
that closes it finds it on top, one level below the depth at which it was opened.
`Listing.isWellNested` puts this together for every listing and every sequence of steps.
-/

namespace ValueBuilder

/-- The blocks that are open after a step, the innermost one first. -/
def Step.nesting : Step → List Block → List Block
  | .write _, blocks => blocks
  | .writeAll _, blocks => blocks
  | .enter, blocks => .plain :: blocks
  | .enterBraced _, blocks => .braced :: blocks
  | .leave, blocks => blocks.tail
  | .abandon, blocks => blocks.tail

/-- A step that opens a block. -/
def Step.Enters (st : Step) : Prop := st = .enter ∨ ∃ opener, st = .enterBraced opener

/-- A step that takes the innermost block away. -/
def Step.Exits (st : Step) : Prop := st = .leave ∨ st = .abandon

namespace Session

/-- What a step writes: the depth of its lines and their texts. A block is closed from outside, one
level further out, and one that is abandoned is not closed by a line at all. -/
def writing (s : Session) : Step → Int × List Text
  | .write line => (s.listing.depth, [line])
  | .writeAll lines => (s.listing.depth, lines)
  | .enter => (s.listing.depth, [])
  | .enterBraced opener => (s.listing.depth, opener.toList ++ [Text.ofString "\x7b"])
  | .leave =>
    (s.listing.depth - 1,
      if s.blocks.head? = some .braced then [Text.ofString "\x7d"] else [])
  | .abandon => (s.listing.depth - 1, [])

/-- The depth outside of all blocks. -/
def ground (s : Session) : Int := s.listing.depth - s.blocks.length

/-! ## One step -/

section Step

variable (s : Session) (st : Step)

/-- What a step does to the open blocks. -/
theorem blocks_step : (s.step st).blocks = st.nesting s.blocks := by
  obtain ⟨l, blocks⟩ := s
  cases st with
  | write | writeAll | enter | enterBraced => rfl
  | leave =>
    cases blocks with
    | nil => rfl
    | cons b blocks => cases b <;> rfl
  | abandon => cases blocks <;> rfl

/-- A step adds its lines at the end, each behind the margin of their depth. -/
theorem lines_step : (s.step st).listing.lines = s.listing.lines ++
    (s.writing st).2.map (Listing.indented s.listing.indent (s.writing st).1) := by
  obtain ⟨l, blocks⟩ := s
  cases st with
  | write line => rfl
  | writeAll lines => exact congrArg Listing.lines (Listing.writeAll_eq l lines)
  | enter => exact (List.append_nil _).symm
  | enterBraced opener =>
    cases opener with
    | none => rfl
    | some line => exact List.append_assoc _ _ _
  | leave =>
    cases blocks with
    | nil => exact (List.append_nil _).symm
    | cons b blocks =>
      cases b with
      | plain => exact (List.append_nil _).symm
      | braced => rfl
  | abandon => cases blocks <;> exact (List.append_nil _).symm

/-- A step keeps the margin of a level. -/
theorem indent_step : (s.step st).listing.indent = s.listing.indent := by
  obtain ⟨l, blocks⟩ := s
  cases st with
  | write | enter => rfl
  | writeAll lines =>
    show (l.writeAll lines).indent = l.indent
    rw [Listing.writeAll_eq]
  | enterBraced opener => cases opener <;> rfl
  | leave =>
    cases blocks with
    | nil => rfl
    | cons b blocks => cases b <;> rfl
  | abandon => cases blocks <;> rfl

/-- A step keeps the depth outside of all blocks: it moves the depth along with the number of open
blocks. -/
theorem ground_step : (s.step st).ground = s.ground := by
  obtain ⟨l, blocks⟩ := s
  -- A block that is opened counts as one level, and so does one that is closed.
  have hopened (b : Block) : (l.depth + 1) - ((b :: blocks).length : Int) =
      l.depth - blocks.length := by
    rw [List.length_cons]
    omega
  have hclosed (b : Block) (bs : List Block) : (l.depth - 1) - (bs.length : Int) =
      l.depth - ((b :: bs).length : Int) := by
    rw [List.length_cons]
    omega
  cases st with
  | write line => rfl
  | writeAll lines =>
    show (l.writeAll lines).depth - (blocks.length : Int) = l.depth - blocks.length
    rw [Listing.writeAll_eq]
  | enter => exact hopened .plain
  | enterBraced opener =>
    have hdepth := Listing.depth_openBrace l opener
    rw [ground, step, hdepth]
    exact hopened .braced
  | leave =>
    cases blocks with
    | nil => rfl
    | cons b blocks => cases b <;> exact hclosed _ _
  | abandon =>
    cases blocks with
    | nil => rfl
    | cons b blocks => exact hclosed b blocks

end Step

/-! ## A run -/

section Run

variable (s : Session) (steps : List Step)

/-- A run keeps the margin of a level. -/
theorem indent_run : (s.run steps).listing.indent = s.listing.indent := by
  induction steps generalizing s with
  | nil => rfl
  | cons st steps ih => exact (ih (s.step st)).trans (s.indent_step st)

/-- A run keeps the depth outside of all blocks. -/
theorem ground_run : (s.run steps).ground = s.ground := by
  induction steps generalizing s with
  | nil => rfl
  | cons st steps ih => exact (ih (s.step st)).trans (s.ground_step st)

end Run

end Session

/-! ## Open blocks -/

namespace Step

variable {st : Step} {blocks bottom : List Block}

/-- A step opens one block at most. -/
theorem length_nesting_le : (st.nesting blocks).length ≤ blocks.length + 1 := by
  cases st with
  | write | writeAll => exact Nat.le_succ _
  | enter | enterBraced => exact Nat.le_refl _
  | leave | abandon =>
    rw [nesting, List.length_tail]
    omega

/-- A step closes one block at most. -/
theorem le_length_nesting : blocks.length ≤ (st.nesting blocks).length + 1 := by
  cases st with
  | write | writeAll => exact Nat.le_succ _
  | enter | enterBraced =>
    rw [nesting, List.length_cons]
    omega
  | leave | abandon =>
    rw [nesting, List.length_tail]
    omega

/-- If more blocks are open after a step, then the step opens one. -/
theorem enters_of_length_lt (h : blocks.length < (st.nesting blocks).length) : st.Enters := by
  cases st with
  | write | writeAll => exact absurd h (Nat.lt_irrefl _)
  | enter => exact .inl rfl
  | enterBraced opener => exact .inr ⟨opener, rfl⟩
  | leave | abandon =>
    rw [nesting, List.length_tail] at h
    omega

/-- Blocks at the bottom of the stack stay there as long as there are enough blocks. -/
theorem suffix_nesting (h : bottom <:+ blocks)
    (hlength : bottom.length ≤ (st.nesting blocks).length) : bottom <:+ st.nesting blocks := by
  -- Taking the top away leaves the bottom alone, unless the bottom is all there is.
  have htail (hle : bottom.length ≤ blocks.tail.length) : bottom <:+ blocks.tail := by
    cases blocks with
    | nil => exact h
    | cons b blocks =>
      rcases List.suffix_cons_iff.1 h with rfl | hsuffix
      · rw [List.tail_cons, List.length_cons] at hle
        omega
      · exact hsuffix
  cases st with
  | write | writeAll => exact h
  | enter | enterBraced => exact h.trans (List.suffix_cons _ _)
  | leave | abandon => exact htail hlength

end Step

/-! ## The stages of a session -/

namespace Listing

/-- The session on a listing after the first so many steps; at first no block is open. -/
def stage (l : Listing) (steps : List Step) (n : Nat) : Session :=
  Session.run ⟨l, []⟩ (steps.take n)

/-- How many blocks are open after the first so many steps. -/
def openCount (l : Listing) (steps : List Step) (n : Nat) : Nat := (l.stage steps n).blocks.length

/-- Step `j` closes the block that step `i` opens: more blocks are open all the time between the two
than before step `i`, and after step `j` it is as many again. -/
structure Closes (l : Listing) (steps : List Step) (i j : Nat) : Prop where
  /-- A block is closed after it was opened. -/
  lt : i < j
  /-- Between the two the block is open. -/
  inside : ∀ k, i < k → k ≤ j → l.openCount steps i < l.openCount steps k
  /-- Afterwards it is not. -/
  outside : l.openCount steps (j + 1) = l.openCount steps i

variable {l : Listing} {steps : List Step} {st : Step} {i j n : Nat}

/-- The next stage is reached by the next step. -/
theorem stage_succ (h : steps[n]? = some st) :
    l.stage steps (n + 1) = (l.stage steps n).step st := by
  rw [stage, List.take_add_one, h, Session.run, List.foldl_append]
  rfl

/-- Without a next step nothing changes. -/
theorem stage_succ_of_none (h : steps[n]? = none) : l.stage steps (n + 1) = l.stage steps n := by
  rw [stage, List.take_add_one, h, Option.toList_none, List.append_nil, stage]

/-- The margin of a level is always the same. -/
theorem indent_stage (l : Listing) (steps : List Step) (n : Nat) :
    (l.stage steps n).listing.indent = l.indent := Session.indent_run _ _

/-- The depth counts the open blocks. -/
theorem depth_stage (l : Listing) (steps : List Step) (n : Nat) :
    (l.stage steps n).listing.depth = l.depth + l.openCount steps n := by
  have hground : (l.stage steps n).ground = l.depth - (0 : Nat) := Session.ground_run _ _
  rw [Session.ground] at hground
  rw [openCount]
  omega

/-- Whatever was written stays. -/
theorem prefix_lines_stage (h : i ≤ n) :
    (l.stage steps i).listing.lines <+: (l.stage steps n).listing.lines := by
  induction n, h using Nat.le_induction with
  | base => exact List.prefix_rfl
  | succ n _ ih =>
    cases hst : steps[n]? with
    | none =>
      rw [stage_succ_of_none hst]
      exact ih
    | some st =>
      rw [stage_succ hst, Session.lines_step]
      exact ih.trans (List.prefix_append _ _)

/-- A step opens one block at most. -/
theorem openCount_succ_le (l : Listing) (steps : List Step) (n : Nat) :
    l.openCount steps (n + 1) ≤ l.openCount steps n + 1 := by
  unfold openCount
  cases hst : steps[n]? with
  | none =>
    rw [stage_succ_of_none hst]
    exact Nat.le_succ _
  | some st =>
    rw [stage_succ hst, Session.blocks_step]
    exact Step.length_nesting_le

/-- A step closes one block at most. -/
theorem openCount_le_succ (l : Listing) (steps : List Step) (n : Nat) :
    l.openCount steps n ≤ l.openCount steps (n + 1) + 1 := by
  unfold openCount
  cases hst : steps[n]? with
  | none =>
    rw [stage_succ_of_none hst]
    exact Nat.le_succ _
  | some st =>
    rw [stage_succ hst, Session.blocks_step]
    exact Step.le_length_nesting

/-- A step that takes a block away closes the block that a step before it has opened: the last one
before which fewer blocks were open. -/
theorem exists_closes (hst : steps[j]? = some st) (hexits : st.Exits)
    (hopen : (l.stage steps j).blocks ≠ []) : ∃ i, l.Closes steps i j := by
  have hpos : 0 < l.openCount steps j := List.length_pos_iff.2 hopen
  have hstart : l.openCount steps 0 < l.openCount steps j := hpos
  have hclosed : l.openCount steps (j + 1) = l.openCount steps j - 1 := by
    have htail : st.nesting (l.stage steps j).blocks = (l.stage steps j).blocks.tail := by
      rcases hexits with rfl | rfl <;> rfl
    rw [openCount, stage_succ hst, Session.blocks_step, htail, List.length_tail, openCount]
  generalize hi : Nat.findGreatest (fun k => l.openCount steps k < l.openCount steps j) j = i
  have hfewer : l.openCount steps i < l.openCount steps j := by
    rw [← hi]
    exact Nat.findGreatest_spec (P := fun k => l.openCount steps k < l.openCount steps j)
      (Nat.zero_le j) hstart
  have hlater (k : Nat) (hik : i < k) (hkj : k ≤ j) :
      l.openCount steps j ≤ l.openCount steps k := by
    rw [← hi] at hik
    exact Nat.le_of_not_lt (Nat.findGreatest_is_greatest
      (P := fun k => l.openCount steps k < l.openCount steps j) hik hkj)
  have hij : i < j := by
    have hle : i ≤ j := by
      rw [← hi]
      exact Nat.findGreatest_le j
    rcases Nat.lt_or_eq_of_le hle with hlt | rfl
    · exact hlt
    · exact absurd hfewer (Nat.lt_irrefl _)
  -- The step behind `i` opens one block, so just one block more is open at `j`.
  have hnext := openCount_succ_le l steps i
  have hnext' := hlater (i + 1) (Nat.lt_succ_self i) hij
  exact ⟨i, hij, fun k hik hkj => Nat.lt_of_lt_of_le hfewer (hlater k hik hkj), by omega⟩

namespace Closes

/-- The block that is closed was opened by a step that opens blocks. -/
theorem enters (h : l.Closes steps i j) : ∃ st, steps[i]? = some st ∧ st.Enters := by
  have hopened := h.inside (i + 1) (Nat.lt_succ_self i) h.lt
  unfold openCount at hopened
  cases hst : steps[i]? with
  | none =>
    rw [stage_succ_of_none hst] at hopened
    exact absurd hopened (Nat.lt_irrefl _)
  | some st =>
    rw [stage_succ hst, Session.blocks_step] at hopened
    exact ⟨st, rfl, Step.enters_of_length_lt hopened⟩

/-- Until a block is closed the stack keeps it where it was opened. -/
theorem suffix (h : l.Closes steps i j) {k : Nat} (hik : i + 1 ≤ k) (hkj : k ≤ j) :
    (l.stage steps (i + 1)).blocks <:+ (l.stage steps k).blocks := by
  induction k, hik using Nat.le_induction with
  | base => exact List.suffix_rfl
  | succ k hik ih =>
    have hk := ih (Nat.le_of_succ_le hkj)
    cases hst : steps[k]? with
    | none =>
      rw [stage_succ_of_none hst]
      exact hk
    | some st =>
      have hopened := openCount_succ_le l steps i
      have hinside := h.inside (k + 1) (by omega) hkj
      have hlength : l.openCount steps (i + 1) ≤ l.openCount steps (k + 1) := by omega
      unfold openCount at hlength
      rw [stage_succ hst, Session.blocks_step] at hlength ⊢
      exact Step.suffix_nesting hk hlength

/-- When a block is closed the stack is the one with which it was opened. -/
theorem blocks_eq (h : l.Closes steps i j) :
    (l.stage steps j).blocks = (l.stage steps (i + 1)).blocks := by
  have hopened := h.inside (i + 1) (Nat.lt_succ_self i) h.lt
  have hinside := h.inside j h.lt (Nat.le_refl j)
  have hnext := openCount_succ_le l steps i
  have hclosed := openCount_le_succ l steps j
  rw [h.outside] at hclosed
  have hlength : l.openCount steps (i + 1) = l.openCount steps j := by omega
  exact ((h.suffix h.lt (Nat.le_refl j)).eq_of_length hlength).symm

/-- A block is closed one level below the depth at which it was opened. -/
theorem depth_eq (h : l.Closes steps i j) :
    (l.stage steps j).listing.depth - 1 = (l.stage steps i).listing.depth := by
  have hinside := h.inside j h.lt (Nat.le_refl j)
  have hclosed := openCount_le_succ l steps j
  rw [h.outside] at hclosed
  rw [depth_stage, depth_stage]
  omega

end Closes

/-! ## Well nested listings -/

/-- The margin of a depth is the margin of a level as often as the depth says, and nothing below
zero. -/
theorem margin_eq (indent : Text) (depth : Int) :
    margin indent depth = (List.replicate (max depth 0).toNat indent).flatten := by
  have hdepth : (max depth 0).toNat = depth.toNat := by omega
  rw [hdepth, margin]

/-- A line is its text behind a margin, and an empty line has none. -/
theorem indented_eq (indent : Text) (depth : Int) (text : Text) :
    indented indent depth text =
      if text = [] then [] else (List.replicate (max depth 0).toNat indent).flatten ++ text := by
  unfold indented
  rw [margin_eq]
  cases text <;> rfl

/-- A listing stays well nested in the course of some steps. -/
structure IsWellNested (l : Listing) (steps : List Step) : Prop where
  /-- At every stage the depth is the first one plus the number of open blocks. -/
  depth : ∀ n, (l.stage steps n).listing.depth = l.depth + (l.stage steps n).blocks.length
  /-- Whenever no block is open the first depth is back. -/
  restored : ∀ n, (l.stage steps n).blocks = [] → (l.stage steps n).listing.depth = l.depth
  /-- No step changes what was written before it. -/
  grows : ∀ m n, m ≤ n → (l.stage steps m).listing.lines <+: (l.stage steps n).listing.lines
  /-- A step adds the lines that it writes. A line is empty, or it is its text behind the margin of
  a level as often as the depth says. -/
  lines : ∀ n st, steps[n]? = some st → (l.stage steps (n + 1)).listing.lines =
    (l.stage steps n).listing.lines ++ ((l.stage steps n).writing st).2.map fun text =>
      if text = [] then []
      else (List.replicate (max ((l.stage steps n).writing st).1 0).toNat l.indent).flatten ++ text
  /-- A step that takes a block away closes a block that a step before it has opened. -/
  closes : ∀ j st, steps[j]? = some st → st.Exits → (l.stage steps j).blocks ≠ [] →
    ∃ i, l.Closes steps i j ∧ ∃ st, steps[i]? = some st ∧ st.Enters
  /-- A block without braces is closed by nothing. -/
  plain : ∀ i j st, steps[i]? = some .enter → l.Closes steps i j → steps[j]? = some st → st.Exits →
    (l.stage steps (j + 1)).listing.lines = (l.stage steps j).listing.lines
  /-- A block between braces that is left is closed by a brace behind the margin of the one that
  opened it, and one that is abandoned by nothing. -/
  braces : ∀ i j opener, steps[i]? = some (.enterBraced opener) → l.Closes steps i j →
    ∃ margin : Text,
      (l.stage steps (i + 1)).listing.lines.getLast? = some (margin ++ "\x7b") ∧
      margin = (List.replicate (max (l.stage steps i).listing.depth 0).toNat l.indent).flatten ∧
      (steps[j]? = some .leave → (l.stage steps (j + 1)).listing.lines =
        (l.stage steps j).listing.lines ++ [margin ++ "\x7d"]) ∧
      (steps[j]? = some .abandon → (l.stage steps (j + 1)).listing.lines =
        (l.stage steps j).listing.lines)

/-- A step writes its lines behind the margin of their depth. -/
theorem lines_stage_succ (h : steps[n]? = some st) :
    (l.stage steps (n + 1)).listing.lines = (l.stage steps n).listing.lines ++
      ((l.stage steps n).writing st).2.map
        (indented l.indent ((l.stage steps n).writing st).1) := by
  rw [stage_succ h, Session.lines_step, indent_stage]

/-- When a block is closed the stack is the one from before it was opened, with the block on top. -/
theorem Closes.nesting_eq (h : l.Closes steps i j) (hst : steps[i]? = some st) :
    (l.stage steps j).blocks = st.nesting (l.stage steps i).blocks := by
  rw [h.blocks_eq, stage_succ hst, Session.blocks_step]

/-- A block without braces ends without a line. -/
theorem lines_of_closes_plain (hi : steps[i]? = some .enter) (h : l.Closes steps i j)
    (hj : steps[j]? = some st) (hexits : st.Exits) :
    (l.stage steps (j + 1)).listing.lines = (l.stage steps j).listing.lines := by
  have hblocks := h.nesting_eq hi
  have hnothing : ((l.stage steps j).writing st).2 = [] := by
    rcases hexits with rfl | rfl
    · rw [Session.writing, hblocks]
      rfl
    · rfl
  rw [lines_stage_succ hj, hnothing]
  exact List.append_nil _

/-- The braces of a block stand behind the same margin. -/
theorem braces_of_closes {opener : Option Text} (hi : steps[i]? = some (.enterBraced opener))
    (h : l.Closes steps i j) :
    (l.stage steps (i + 1)).listing.lines.getLast? =
        some (margin l.indent (l.stage steps i).listing.depth ++ "\x7b") ∧
      (steps[j]? = some .leave → (l.stage steps (j + 1)).listing.lines =
        (l.stage steps j).listing.lines ++
          [margin l.indent (l.stage steps i).listing.depth ++ "\x7d"]) ∧
      (steps[j]? = some .abandon → (l.stage steps (j + 1)).listing.lines =
        (l.stage steps j).listing.lines) := by
  refine ⟨?_, fun hj => ?_, fun hj => ?_⟩
  · rw [lines_stage_succ hi, Session.writing, List.map_append, ← List.append_assoc]
    exact List.getLast?_concat
  · -- The block on top is the one that was opened, so it has braces.
    have hblocks : (l.stage steps j).blocks = .braced :: (l.stage steps i).blocks :=
      h.nesting_eq hi
    rw [lines_stage_succ hj, Session.writing, hblocks, List.head?_cons, if_pos rfl, h.depth_eq]
    rfl
  · rw [lines_stage_succ hj]
    exact List.append_nil _

/-- Every listing stays well nested in the course of any steps. -/
theorem isWellNested (l : Listing) (steps : List Step) : l.IsWellNested steps where
  depth := depth_stage l steps
  restored n hblocks := by
    rw [depth_stage, openCount, hblocks]
    exact Int.add_zero _
  grows _ _ := prefix_lines_stage
  lines n st hst := by
    rw [lines_stage_succ hst]
    exact congrArg _ (List.map_congr_left fun text _ => indented_eq _ _ text)
  closes j st hst hexits hopen := by
    obtain ⟨i, hi⟩ := exists_closes hst hexits hopen
    exact ⟨i, hi, hi.enters⟩
  plain _ _ _ := lines_of_closes_plain
  braces i j opener hi h := by
    have hbraces := braces_of_closes hi h
    rw [margin_eq] at hbraces
    exact ⟨_, hbraces.1, rfl, hbraces.2⟩

example : ({} : Listing).stage
    [.enterBraced (some "a"), .enterBraced none, .write "b", .abandon, .write "c", .leave] 6 =
      ⟨{ lines := ["a", "\x7b", "  \x7b", "    b", "  c", "\x7d"] }, []⟩ := by
  decide

end Listing

end ValueBuilder
