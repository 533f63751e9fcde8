import Mathlib.Data.List.Basic
import AggregateRules.Unicode.Run

/-!
# Tables of runs

Whether all code points of some runs are in a table is decided in one pass over
the two, as both ascend: the runs are cut into spans without gaps, and each run
of the table takes away the spans that it holds. A pass may only miss spans that
the table holds and never accepts one that it does not, see
`InTable.of_covers`; so it does not have to be known that the tables ascend.
That two tables have nothing in common is decided in one pass as well, but this
one relies on their order, see `notMem_of_disjoint`.
-/

namespace AggregateRules.Unicode

/-- A code point of a table. -/
def InTable (table : List Run) (point : Nat) : Prop :=
  ∃ run ∈ table, run.contains point = true

theorem hasRun_iff {table : List Run} {character : Char} :
    hasRun table character = true ↔ InTable table character.toNat :=
  List.any_eq_true

/-- All code points from the first one to the last one. -/
structure Span where
  first : Nat
  last : Nat

def Span.contains (span : Span) (point : Nat) : Prop :=
  span.first ≤ point ∧ point ≤ span.last

/-- The spans that a run consists of. -/
def Run.spans (run : Run) : List Span :=
  if run.stride = 1 then [⟨run.first, run.last⟩]
  else
    (List.range ((run.last - run.first) / run.stride + 1)).map fun step =>
      ⟨run.first + step * run.stride, run.first + step * run.stride⟩

theorem Run.exists_span {run : Run} {point : Nat}
    (contained : run.contains point = true) :
    ∃ span ∈ run.spans, span.contains point := by
  simp only [Run.contains, Bool.and_eq_true, decide_eq_true_eq,
    beq_iff_eq] at contained
  obtain ⟨⟨lower, upper⟩, aligned⟩ := contained
  unfold Run.spans
  split
  · exact ⟨⟨run.first, run.last⟩, List.mem_singleton_self _, lower, upper⟩
  · let step := (point - run.first) / run.stride
    have within : step < (run.last - run.first) / run.stride + 1 :=
      Nat.lt_succ_of_le (Nat.div_le_div_right (Nat.sub_le_sub_right upper _))
    have reached : run.first + step * run.stride = point := by
      have split := Nat.mod_add_div' (point - run.first) run.stride
      rw [aligned, Nat.zero_add] at split
      rw [split]
      omega
    refine ⟨_, List.mem_map_of_mem (List.mem_range.mpr within), ?_⟩
    exact ⟨Nat.le_of_eq reached, Nat.le_of_eq reached.symm⟩

/-- Whether a run holds all code points of a span. -/
def Run.holds (run : Run) (span : Span) : Bool :=
  run.contains span.first && run.contains span.last &&
    (run.stride == 1 || span.first == span.last)

theorem Run.contains_of_holds {run : Run} {span : Span} {point : Nat}
    (held : run.holds span = true) (inside : span.contains point) :
    run.contains point = true := by
  simp only [Run.holds, Bool.and_eq_true, Bool.or_eq_true, beq_iff_eq] at held
  obtain ⟨⟨first, last⟩, dense | single⟩ := held
  · simp only [Run.contains, Bool.and_eq_true, decide_eq_true_eq,
      dense, Nat.mod_one, beq_self_eq_true, and_true] at first last ⊢
    exact ⟨Nat.le_trans first.1 inside.1, Nat.le_trans inside.2 last.2⟩
  · have equal : point = span.first :=
      Nat.le_antisymm (single ▸ inside.2) inside.1
    rw [equal]
    exact first

/-- Goes through a table and drops the spans that each of its runs holds. Both
lists should ascend. -/
def coversSpans : List Run → List Span → Bool
  | [], spans => spans.isEmpty
  | run :: rest, spans => coversSpans rest (spans.dropWhile run.holds)

theorem exists_holds_of_coversSpans {table : List Run} {spans : List Span}
    (covered : coversSpans table spans = true) :
    ∀ span ∈ spans, ∃ run ∈ table, run.holds span = true := by
  induction table generalizing spans with
  | nil =>
      intro span member
      rw [coversSpans, List.isEmpty_iff] at covered
      simp [covered] at member
  | cons run rest ih =>
      intro span member
      have parts : spans.takeWhile run.holds ++ spans.dropWhile run.holds =
          spans := List.takeWhile_append_dropWhile
      rw [← parts, List.mem_append] at member
      cases member with
      | inl taken =>
          have allTaken := List.all_eq_true.mp
            (List.all_takeWhile (p := run.holds) (l := spans))
          exact ⟨run, List.mem_cons_self, allTaken span taken⟩
      | inr left =>
          obtain ⟨other, inRest, held⟩ := ih covered span left
          exact ⟨other, List.mem_cons_of_mem _ inRest, held⟩

/-- Whether a table holds all code points of some runs, which should ascend. -/
def covers (table runs : List Run) : Bool :=
  coversSpans table (runs.flatMap Run.spans)

theorem InTable.of_covers {table runs : List Run}
    (covered : covers table runs = true) {point : Nat}
    (inside : InTable runs point) : InTable table point := by
  obtain ⟨run, isRun, contained⟩ := inside
  obtain ⟨span, isSpan, inSpan⟩ := Run.exists_span contained
  have isListed := List.mem_flatMap.mpr ⟨run, isRun, isSpan⟩
  obtain ⟨holder, inTable, held⟩ :=
    exists_holds_of_coversSpans covered span isListed
  exact ⟨holder, inTable, Run.contains_of_holds held inSpan⟩

/-- Whether a run lies before or behind each run of a table. -/
def avoids (table : List Run) (run : Run) : Bool :=
  table.all fun other => other.last < run.first || run.last < other.first

theorem notMem_of_avoids {table : List Run} {run : Run}
    (avoided : avoids table run = true) {point : Nat}
    (inside : run.contains point = true) : ¬ InTable table point := by
  rintro ⟨other, inTable, contained⟩
  have apart := List.all_eq_true.mp avoided other inTable
  simp only [Run.contains, Bool.and_eq_true, Bool.or_eq_true,
    decide_eq_true_eq] at apart inside contained
  omega

/-- Whether all code points of a run are even or all are odd. -/
def Run.alternates (run : Run) : Bool :=
  run.stride == 2 || run.first == run.last

theorem Run.mod_two_of_alternates {run : Run} (alternates : run.alternates)
    {point : Nat} (inside : run.contains point = true) :
    point % 2 = run.first % 2 := by
  simp only [Run.alternates, Run.contains, Bool.or_eq_true, Bool.and_eq_true,
    beq_iff_eq, decide_eq_true_eq] at alternates inside
  obtain ⟨⟨lower, upper⟩, aligned⟩ := inside
  rcases alternates with two | single
  · rw [two] at aligned
    omega
  · have equal : point = run.first := by omega
    rw [equal]

/-- Whether two runs are seen to have nothing in common: one lies before the
other, or they take turns. -/
def Run.apart (left right : Run) : Bool :=
  left.last.blt right.first || right.last.blt left.first ||
    (left.alternates && right.alternates && left.first % 2 != right.first % 2)

theorem Run.not_contains_of_apart {left right : Run}
    (apart : left.apart right = true) {point : Nat}
    (inside : left.contains point = true) :
    ¬ right.contains point = true := by
  intro alsoInside
  simp only [Run.apart, Bool.or_eq_true, Bool.and_eq_true, Nat.blt_eq,
    bne_iff_ne] at apart
  rcases apart with (before | behind) | ⟨⟨leftTurns, rightTurns⟩, different⟩
  · simp only [Run.contains, Bool.and_eq_true, decide_eq_true_eq]
      at inside alsoInside
    omega
  · simp only [Run.contains, Bool.and_eq_true, decide_eq_true_eq]
      at inside alsoInside
    omega
  · apply different
    rw [← Run.mod_two_of_alternates leftTurns inside,
      ← Run.mod_two_of_alternates rightTurns alsoInside]

/-- Whether the runs of a table start one behind the other. -/
def ascends : List Run → Bool
  | run :: next :: rest => run.first.ble next.first && ascends (next :: rest)
  | _ => true

theorem pairwise_of_ascends {table : List Run}
    (ascending : ascends table = true) :
    table.Pairwise fun run next => run.first ≤ next.first := by
  fun_induction ascends table with
  | case1 run next rest ih =>
      rw [Bool.and_eq_true, Nat.ble_eq] at ascending
      have others := ih ascending.2
      refine List.pairwise_cons.mpr ⟨fun other member => ?_, others⟩
      cases member with
      | head => exact ascending.1
      | tail _ inRest =>
          exact Nat.le_trans ascending.1
            (List.rel_of_pairwise_cons others inRest)
  | case2 table short =>
      rcases table with _ | ⟨run, _ | ⟨next, rest⟩⟩
      · exact .nil
      · exact List.pairwise_singleton _ run
      · exact absurd rfl (short run next rest)

/-- Whether a run has nothing in common with the runs of an ascending table. -/
def clears (run : Run) : List Run → Bool
  | [] => true
  | other :: rest =>
      run.last.blt other.first || run.apart other && clears run rest

theorem apart_of_clears {run : Run} {table : List Run}
    (ascending : table.Pairwise fun left right => left.first ≤ right.first)
    (cleared : clears run table = true) :
    ∀ other ∈ table, run.apart other = true := by
  induction table with
  | nil => simp
  | cons nearest rest ih =>
      rw [List.pairwise_cons] at ascending
      simp only [clears, Bool.or_eq_true, Bool.and_eq_true, Nat.blt_eq]
        at cleared
      intro other member
      rcases cleared with before | ⟨apart, cleared⟩
      · have behind : nearest.first ≤ other.first := by
          cases member with
          | head => exact Nat.le_refl _
          | tail _ inRest => exact ascending.1 other inRest
        simp [Run.apart, Nat.lt_of_lt_of_le before behind]
      · cases member with
        | head => exact apart
        | tail _ inRest => exact ih ascending.2 cleared other inRest

/-- Goes through two ascending tables side by side and looks whether they have
nothing in common. -/
def disjoint : List Run → List Run → Bool
  | [], _ => true
  | run :: rest, table =>
      let ahead := table.dropWhile fun other => other.last.blt run.first
      clears run ahead && disjoint rest ahead

/-- What the pass leaves behind lies before the runs that are still ahead. -/
theorem not_contains_of_disjoint {left right : List Run}
    (leftAscends : left.Pairwise fun run next => run.first ≤ next.first)
    (rightAscends : right.Pairwise fun run next => run.first ≤ next.first)
    (passed : disjoint left right = true) {point : Nat} :
    ∀ run ∈ left, ∀ other ∈ right, run.contains point = true →
      ¬ other.contains point = true := by
  induction left generalizing right with
  | nil => simp
  | cons nearest rest ih =>
      rw [List.pairwise_cons] at leftAscends
      rw [disjoint, Bool.and_eq_true] at passed
      have aheadAscends := rightAscends.sublist
        (List.dropWhile_sublist fun other => other.last.blt nearest.first)
      intro run inLeft other inRight inside
      have start : nearest.first ≤ point := by
        simp only [Run.contains, Bool.and_eq_true, decide_eq_true_eq] at inside
        cases inLeft with
        | head => exact inside.1.1
        | tail _ inRest =>
            exact Nat.le_trans (leftAscends.1 run inRest) inside.1.1
      -- What is dropped ends before the nearest run starts, and no later run
      -- starts before that.
      rw [← List.takeWhile_append_dropWhile (l := right)
        (p := fun other => other.last.blt nearest.first),
        List.mem_append] at inRight
      cases inRight with
      | inl behind =>
          have before := List.all_eq_true.mp List.all_takeWhile other behind
          simp only [Nat.blt_eq] at before
          simp only [Run.contains, Bool.and_eq_true, decide_eq_true_eq]
          omega
      | inr ahead =>
          cases inLeft with
          | head =>
              exact Run.not_contains_of_apart
                (apart_of_clears aheadAscends passed.1 other ahead) inside
          | tail _ inRest =>
              exact ih leftAscends.2 aheadAscends passed.2 run inRest other
                ahead inside

theorem notMem_of_disjoint {left right : List Run}
    (leftAscends : ascends left = true) (rightAscends : ascends right = true)
    (passed : disjoint left right = true) {point : Nat}
    (inside : InTable left point) : ¬ InTable right point := by
  rintro ⟨other, inRight, alsoContained⟩
  obtain ⟨run, inLeft, contained⟩ := inside
  exact not_contains_of_disjoint (pairwise_of_ascends leftAscends)
    (pairwise_of_ascends rightAscends) passed run inLeft other inRight
    contained alsoContained

end AggregateRules.Unicode
