import ValueBuilder.Proofs.Lines
import ValueBuilder.Proofs.Sessions

/-!
# Shifts

A listing that starts further in comes out the same, moved to the right. Two sessions that differ by
`k` levels (`Session.IsShifted`) differ by them after every step: a step opens and closes the same
blocks in both, and it writes the same texts, `k` levels further in in the second (`writing_eq`).
So every line has `k` margins more in front (`indented_add`), unless it is empty. The lines of a run
are those of its steps, one step after the other (`Session.written`).

This needs a depth that is not negative, because there is no margin below zero and a level there
shows nowhere. A block between braces is closed one level further out than its lines, so the depth
of the closing brace is not negative either as long as the depth outside of all blocks is not
(`depth_writing_nonneg`).

Rendering forgets nothing as long as no line holds a line feed. Every line ends with one, so the
text splits at line feeds into the lines and an empty piece (`splitOn_render`).
-/

namespace ValueBuilder

namespace Listing

/-- A line that is moved in by some levels; an empty line stays empty. -/
def shift (indent : Text) (k : Nat) (line : Text) : Text :=
  if line = [] then [] else (List.replicate k indent).flatten ++ line

/-- The margin of a depth that is the sum of two has the margin of either part. -/
theorem margin_add (indent : Text) (k : Nat) {depth : Int} (hdepth : 0 ≤ depth) :
    margin indent (depth + k) = (List.replicate k indent).flatten ++ margin indent depth := by
  have hlevels : (depth + k).toNat = k + depth.toNat := by omega
  rw [margin, hlevels, List.replicate_add, List.flatten_append, margin]

/-- A line that is written some levels further in is the line moved in by them. -/
theorem indented_add (indent : Text) (k : Nat) {depth : Int} (hdepth : 0 ≤ depth) (text : Text) :
    indented indent (depth + k) text = shift indent k (indented indent depth text) := by
  cases text with
  | nil => rfl
  | cons c cs =>
    -- Behind a margin there is the text, so the line is not empty.
    have hline : margin indent depth ++ c :: cs ≠ [] :=
      List.append_ne_nil_of_right_ne_nil _ (List.cons_ne_nil c cs)
    show margin indent (depth + k) ++ c :: cs = shift indent k (margin indent depth ++ c :: cs)
    rw [margin_add indent k hdepth, shift, if_neg hline, List.append_assoc]

end Listing

namespace Session

/-- The lines that steps add, each behind the margin of its depth. -/
def written (s : Session) : List Step → List Text
  | [] => []
  | st :: steps =>
    (s.writing st).2.map (Listing.indented s.listing.indent (s.writing st).1) ++
      (s.step st).written steps

/-- A run adds the lines of its steps at the end. -/
theorem lines_run (s : Session) (steps : List Step) :
    (s.run steps).listing.lines = s.listing.lines ++ s.written steps := by
  induction steps generalizing s with
  | nil => exact (List.append_nil _).symm
  | cons st steps ih =>
    calc (s.run (st :: steps)).listing.lines =
          (s.step st).listing.lines ++ (s.step st).written steps := ih (s.step st)
      _ = s.listing.lines ++ s.written (st :: steps) := by
          rw [lines_step, written, List.append_assoc]

/-- What a step writes is not to the left of the first column, as long as the depth outside of all
blocks is not negative. -/
theorem depth_writing_nonneg {s : Session} {st : Step} (hground : 0 ≤ s.ground)
    (hwrites : (s.writing st).2 ≠ []) : 0 ≤ (s.writing st).1 := by
  rw [ground] at hground
  have hdepth : 0 ≤ s.listing.depth := by omega
  cases st with
  | write | writeAll | enter | enterBraced => exact hdepth
  | leave =>
    -- Only a block between braces is closed by a line, and that block is one level.
    have hbraced : s.blocks.head? = some .braced := by
      by_contra hother
      exact hwrites (if_neg hother)
    have hopen : 0 < s.blocks.length := by
      refine List.length_pos_iff.2 fun hnil => ?_
      rw [hnil] at hbraced
      cases hbraced
    show 0 ≤ s.listing.depth - 1
    omega
  | abandon => exact absurd rfl hwrites

/-- Two sessions that are alike, except that the second one is some levels further in and that they
may have different lines so far. -/
structure IsShifted (k : Nat) (s t : Session) : Prop where
  /-- A level has the same margin in both. -/
  indent : t.listing.indent = s.listing.indent
  /-- The second one is further in. -/
  depth : t.listing.depth = s.listing.depth + k
  /-- The same blocks are open. -/
  blocks : t.blocks = s.blocks
  /-- Outside of all blocks the depth is not negative. -/
  ground : 0 ≤ s.ground

namespace IsShifted

variable {k : Nat} {s t : Session}

/-- A step writes the same texts in both, further in in the second. -/
theorem writing_eq (h : IsShifted k s t) (st : Step) :
    t.writing st = ((s.writing st).1 + k, (s.writing st).2) := by
  have hdepth := h.depth
  cases st with
  | write | writeAll | enter | enterBraced => exact congrArg (·, _) hdepth
  | leave =>
    have houter : t.listing.depth - 1 = s.listing.depth - 1 + k := by omega
    rw [writing, writing, h.blocks, houter]
  | abandon =>
    have houter : t.listing.depth - 1 = s.listing.depth - 1 + k := by omega
    exact congrArg (·, []) houter

/-- The lines that a step adds to the second are those that it adds to the first, moved in. -/
theorem map_indented_writing (h : IsShifted k s t) (st : Step) :
    (t.writing st).2.map (Listing.indented t.listing.indent (t.writing st).1) =
      ((s.writing st).2.map (Listing.indented s.listing.indent (s.writing st).1)).map
        (Listing.shift s.listing.indent k) := by
  rw [h.writing_eq, h.indent, List.map_map]
  refine List.map_congr_left fun text htext => ?_
  have hdepth := depth_writing_nonneg h.ground (List.ne_nil_of_mem htext)
  exact Listing.indented_add s.listing.indent k hdepth text

/-- A step keeps the distance. -/
theorem step (h : IsShifted k s t) (st : Step) : IsShifted k (s.step st) (t.step st) := by
  have hblocks : (t.step st).blocks = (s.step st).blocks := by
    rw [blocks_step, blocks_step, h.blocks]
  have hdepth : (t.step st).listing.depth = (s.step st).listing.depth + k := by
    -- The depth is the one outside of all blocks, which no step changes, and the open blocks.
    have hs := s.ground_step st
    have ht := t.ground_step st
    have hstart := h.depth
    rw [Session.ground, Session.ground] at hs ht
    rw [hblocks, h.blocks] at ht
    omega
  exact {
    indent := by rw [indent_step, indent_step, h.indent]
    depth := hdepth
    blocks := hblocks
    ground := by
      rw [ground_step]
      exact h.ground }

/-- The lines that a run adds to the second are those that it adds to the first, moved in. -/
theorem written_eq (h : IsShifted k s t) (steps : List Step) :
    t.written steps = (s.written steps).map (Listing.shift s.listing.indent k) := by
  -- The distance is the invariant, so the sessions vary.
  induction steps generalizing s t with
  | nil => rfl
  | cons st steps ih =>
    have hrest := ih (h.step st)
    rw [indent_step] at hrest
    rw [written, written, List.map_append, h.map_indented_writing, hrest]

end IsShifted

end Session

namespace Listing

/-- The last line feed of a text stands in front of an empty piece. -/
theorem render_eq_intercalate {l : Listing} (hlines : l.lines ≠ []) :
    l.render = List.intercalate "\n" (l.lines ++ [[]]) := by
  obtain ⟨line, rest, hcons⟩ := List.exists_cons_of_ne_nil hlines
  calc l.render = (line ++ rest.flatMap (Text.ofString "\n" ++ ·)) ++ "\n" := by
        rw [render, hcons, Text.intercalate_cons]
    _ = line ++ (rest ++ [[]]).flatMap (Text.ofString "\n" ++ ·) := by
        rw [List.flatMap_append, List.flatMap_singleton, List.append_nil, List.append_assoc]
    _ = List.intercalate "\n" (l.lines ++ [[]]) := by
        rw [hcons, List.cons_append, Text.intercalate_cons]

/-- The text of lines without line feeds splits at line feeds into the lines and an empty piece. -/
theorem splitOn_render {l : Listing} (hlines : l.lines ≠ [])
    (hfeed : ∀ line ∈ l.lines, CodePoint.char '\n' ∉ line) :
    l.render.splitOn (.char '\n') = l.lines ++ [[]] := by
  have hpieces : ∀ piece ∈ l.lines ++ [[]], CodePoint.char '\n' ∉ piece := by
    intro piece hpiece
    rcases List.mem_append.1 hpiece with hline | hlast
    · exact hfeed piece hline
    · rw [List.mem_singleton.1 hlast]
      exact List.not_mem_nil
  rw [render_eq_intercalate hlines]
  exact List.splitOn_intercalate _ hpieces (List.append_ne_nil_of_left_ne_nil hlines _)

/-- The depth at which a listing starts is a uniform shift, and rendering can be read back. Whatever
steps are taken from two listings with no block open, the second one `k` levels further in than the
first, the first one has the lines of the steps added, and the second one the same lines, each with
the margin of a level `k` times in front, except that an empty line stays empty. And the text of any
listing that has lines, and none with a line feed, splits at line feeds into pieces of which the
last one is empty and the others are the lines. -/
theorem shifted_and_readBack :
    (∀ (l m : Listing) (k : Nat) (steps : List Step),
      0 ≤ l.depth → m.depth = l.depth + k → m.indent = l.indent →
      (Session.run ⟨l, []⟩ steps).listing.lines = l.lines ++ Session.written ⟨l, []⟩ steps ∧
        (Session.run ⟨m, []⟩ steps).listing.lines =
          m.lines ++ (Session.written ⟨l, []⟩ steps).map fun line =>
            if line = [] then [] else (List.replicate k l.indent).flatten ++ line) ∧
    ∀ l : Listing, l.lines ≠ [] → (∀ line ∈ l.lines, CodePoint.char '\n' ∉ line) →
      (l.render.splitOn (.char '\n')).getLast? = some [] ∧
        (l.render.splitOn (.char '\n')).dropLast = l.lines := by
  refine ⟨fun l m k steps hstart hdepth hindent => ⟨Session.lines_run _ _, ?_⟩,
    fun l hlines hfeed => ?_⟩
  · have hshifted : Session.IsShifted k ⟨l, []⟩ ⟨m, []⟩ := {
      indent := hindent
      depth := hdepth
      blocks := rfl
      ground := by
        show 0 ≤ l.depth - (0 : Nat)
        omega }
    rw [Session.lines_run, hshifted.written_eq]
    rfl
  · rw [splitOn_render hlines hfeed]
    exact ⟨List.getLast?_concat, List.dropLast_concat⟩

/-- A block that is left, in which a block is abandoned, from a depth on. -/
def abandoning (depth : Int) : Listing :=
  (Session.run ⟨{ indent := "\t", depth }, []⟩
    [.enterBraced (some "if (a)"), .writeAll ["b;", ""], .enterBraced none, .write "c;", .abandon,
      .leave, .write "d;"]).listing

/-- Two levels further in there are two tabs more in front of each line but the empty one, and the
text splits into the lines. -/
theorem shifted_and_readBack_abandoning :
    (abandoning 1).lines =
        ["\tif (a)", "\t\x7b", "\t\tb;", "", "\t\t\x7b", "\t\t\tc;", "\t\x7d", "\td;"] ∧
      (abandoning 3).lines =
        ["\t\t\tif (a)", "\t\t\t\x7b", "\t\t\t\tb;", "", "\t\t\t\t\x7b", "\t\t\t\t\tc;",
          "\t\t\t\x7d", "\t\t\td;"] ∧
      (abandoning 1).lines ≠ [] ∧ (∀ line ∈ (abandoning 1).lines, CodePoint.char '\n' ∉ line) ∧
      ((abandoning 1).render.splitOn (.char '\n')).getLast? = some [] ∧
      ((abandoning 1).render.splitOn (.char '\n')).dropLast = (abandoning 1).lines := by
  obtain ⟨hshift, hread⟩ := shifted_and_readBack
  have hlines : (abandoning 1).lines =
      ["\tif (a)", "\t\x7b", "\t\tb;", "", "\t\t\x7b", "\t\t\tc;", "\t\x7d", "\td;"] := by
    decide
  -- The lines further in come from these by the shift, not by another run.
  have hshifted : (abandoning 3).lines =
      ["\t\t\tif (a)", "\t\t\t\x7b", "\t\t\t\tb;", "", "\t\t\t\t\x7b", "\t\t\t\t\tc;",
        "\t\t\t\x7d", "\t\t\td;"] := by
    obtain ⟨hfirst, hsecond⟩ := hshift { indent := "\t", depth := 1 }
      { indent := "\t", depth := 3 } 2 _ (by decide) rfl rfl
    have hwritten := hfirst.symm.trans hlines
    rw [List.nil_append] at hwritten
    refine Eq.trans hsecond ?_
    rw [hwritten]
    decide
  have hne : (abandoning 1).lines ≠ [] := by
    rw [hlines]
    exact List.cons_ne_nil _ _
  have hfeed : ∀ line ∈ (abandoning 1).lines, CodePoint.char '\n' ∉ line := by
    rw [hlines]
    decide
  exact ⟨hlines, hshifted, hne, hfeed, hread _ hne hfeed⟩

end Listing

end ValueBuilder
