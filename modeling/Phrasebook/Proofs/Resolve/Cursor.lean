import Phrasebook.Resolve
import Phrasebook.Proofs.Text.Slices

/-!
# A cursor over a template

Resolving with places in place of texts. The cursor goes over the template by the bytes that it has
read, keeps one output for all that has been written, and of an open parenthesis notes how long the
output was before it and where the template goes on behind it. At a bar the output is cut back to
that length, and the singular is cut out of the template.

Every access to the template and to the output is a checked slice, so a cursor that is led behind a
text or into a character fails. Each pass of the loop moves the cursor on, and that is why the loop
ends; what is noted of a parenthesis is kept until a bar or another parenthesis is met, while the
output only grows.
-/
namespace Phrasebook

/-- What is noted of an open parenthesis. -/
structure ParenMark where
  /-- How long the output was before the parenthesis was copied. -/
  outputLength : Nat
  /-- The place in the template behind the parenthesis. -/
  sourcePos : Nat
  deriving DecidableEq

/-- A template that has been resolved in part, by places. -/
@[ext]
structure Cursor where
  /-- How much of the template has been read. -/
  pos : Nat
  output : String
  /-- The last parenthesis since the last bar. -/
  mark? : Option ParenMark
  deriving DecidableEq

namespace Cursor

/-- The cursor before the first character. -/
def start : Cursor := ⟨0, "", none⟩

/-- What a pass of the loop comes to, unless it fails. -/
inductive Pass where
  | done (output : String)
  | next (cursor : Cursor)

/-- The cursor behind a character that is copied. A parenthesis is noted. -/
def copy (cursor : Cursor) (c : Char) : Cursor where
  pos := cursor.pos + c.utf8Size
  output := cursor.output.push c
  mark? := if c = '(' then some ⟨cursor.output.utf8ByteSize, cursor.pos + 1⟩ else cursor.mark?

/-- The cursor behind an opening mark and the body that follows it. Without a closing mark all that
follows is copied. -/
def placeholder? (context : Context) (template : String) (cursor : Cursor) : Option Cursor := do
  let bodyPos := cursor.pos + 2
  let behind ← Text.slice? template bodyPos template.utf8ByteSize
  match (untilClosing behind.toList).map fun (body, _) => Text.byteCount body with
  | some length =>
    let body ← Text.slice? template bodyPos (bodyPos + length)
    some { cursor with
      pos := bodyPos + length + 2
      output := cursor.output ++ context.slotText (Slot.ofBody body.toList) }
  | none =>
    let rest ← Text.slice? template cursor.pos template.utf8ByteSize
    some { cursor with pos := template.utf8ByteSize, output := cursor.output ++ rest }

/-- The cursor behind a bar, or behind the alternative that the bar is part of. -/
def alternative? (context : Context) (template : String) (cursor : Cursor) : Option Cursor := do
  let branchesPos := cursor.pos + 1
  let behind ← Text.slice? template branchesPos template.utf8ByteSize
  let length? := (Text.cutAt ')' behind.toList).map fun (branches, _) => Text.byteCount branches
  match cursor.mark?, length? with
  | some mark, some length =>
    let singular ← Text.slice? template mark.sourcePos cursor.pos
    let branches ← Text.slice? template branchesPos (branchesPos + length)
    let plural := String.ofList (Text.fields '|' branches.toList).1
    -- an output that is shorter already would be kept whole; here that is a failure too
    let kept ← Text.slice? cursor.output 0 mark.outputLength
    some ⟨branchesPos + length + 1,
      kept ++ (if context.selectsSingular then singular else plural), none⟩
  | _, _ => some ⟨branchesPos, cursor.output.push '|', none⟩

/-- One pass of the loop. -/
def pass? (context : Context) (template : String) (cursor : Cursor) : Option Pass := do
  let rest ← Text.slice? template cursor.pos template.utf8ByteSize
  match rest.toList.head? with
  | none => some (.done cursor.output)
  | some c =>
    if opening <+: rest.toList then (cursor.placeholder? context template).map .next
    else if c = '|' then (cursor.alternative? context template).map .next
    else some (.next (cursor.copy c))

/-- The second cursor is further on than the first one. What it has noted is nothing, or what the
first one has noted, with more output behind it, or the parenthesis that the first one stands
before. -/
structure Moves (cursor next : Cursor) : Prop where
  pos_lt : cursor.pos < next.pos
  mark : next.mark? = none ∨
    (next.mark? = cursor.mark? ∧ ∃ more, next.output = cursor.output ++ more) ∨
    (next.mark? = some ⟨cursor.output.utf8ByteSize, cursor.pos + 1⟩ ∧
      next.output = cursor.output ++ "(")

section Moves
variable {context : Context} {template : String} {cursor next : Cursor}

theorem moves_copy (cursor : Cursor) (c : Char) : Moves cursor (cursor.copy c) := by
  refine ⟨Nat.lt_add_of_pos_right c.utf8Size_pos, ?_⟩
  by_cases hparen : c = '('
  · subst hparen
    exact .inr (.inr ⟨rfl, String.push_eq_append _⟩)
  · refine .inr (.inl ⟨if_neg hparen, String.singleton c, ?_⟩)
    exact String.push_eq_append _

theorem moves_of_placeholder? (h : cursor.placeholder? context template = some next)
    (hinside : cursor.pos < template.utf8ByteSize) : Moves cursor next := by
  simp only [placeholder?, Option.bind_eq_bind, Option.bind_eq_some_iff] at h
  obtain ⟨behind, -, h⟩ := h
  split at h
  · obtain ⟨body, -, hnext⟩ := Option.bind_eq_some_iff.1 h
    obtain rfl := Option.some.inj hnext
    refine ⟨?_, .inr (.inl ⟨rfl, _, rfl⟩)⟩
    show cursor.pos < cursor.pos + 2 + _ + 2
    omega
  · obtain ⟨rest, -, hnext⟩ := Option.bind_eq_some_iff.1 h
    obtain rfl := Option.some.inj hnext
    exact ⟨hinside, .inr (.inl ⟨rfl, _, rfl⟩)⟩

theorem moves_of_alternative? (h : cursor.alternative? context template = some next) :
    Moves cursor next := by
  simp only [alternative?, Option.bind_eq_bind, Option.bind_eq_some_iff] at h
  obtain ⟨behind, -, h⟩ := h
  split at h
  · simp only [Option.bind_eq_some_iff] at h
    obtain ⟨singular, -, branches, -, kept, -, hnext⟩ := h
    obtain rfl := Option.some.inj hnext
    refine ⟨?_, .inl rfl⟩
    show cursor.pos < cursor.pos + 1 + _ + 1
    omega
  · obtain rfl := Option.some.inj h
    exact ⟨Nat.lt_succ_self _, .inl rfl⟩

/-- A pass that goes on has moved the cursor, which was not at the end. -/
theorem moves_of_pass? (h : cursor.pass? context template = some (.next next)) :
    Moves cursor next ∧ cursor.pos < template.utf8ByteSize := by
  simp only [pass?, Option.bind_eq_bind, Option.bind_eq_some_iff] at h
  obtain ⟨rest, hrest, h⟩ := h
  split at h
  · simp at h
  · rename_i c hhead
    have hinside : cursor.pos < template.utf8ByteSize := by
      obtain ⟨tail, hread⟩ := List.head?_eq_some_iff.1 hhead
      have hslice := Text.add_size_of_slice? hrest
      have hpos := c.utf8Size_pos
      rw [← Text.byteCount_toList, hread, Text.byteCount_cons] at hslice
      omega
    refine ⟨?_, hinside⟩
    split_ifs at h
    · simp only [Option.map_eq_some_iff, Pass.next.injEq, exists_eq_right] at h
      exact moves_of_placeholder? h hinside
    · simp only [Option.map_eq_some_iff, Pass.next.injEq, exists_eq_right] at h
      exact moves_of_alternative? h
    · simp only [Option.some.injEq, Pass.next.injEq] at h
      subst h
      exact moves_copy cursor c

end Moves

/-- The cursors at the head of the loop, from `cursor` on to the one that has read the whole
template, and the output. -/
def run (context : Context) (template : String) (cursor : Cursor) :
    Option (List Cursor × String) :=
  match h : cursor.pass? context template with
  | none => none
  | some (.done output) => some ([cursor], output)
  | some (.next next) =>
    have := (moves_of_pass? h).1.pos_lt
    have := (moves_of_pass? h).2
    (run context template next).map fun (cursors, output) => (cursor :: cursors, output)
termination_by template.utf8ByteSize - cursor.pos

section Run
variable {context : Context} {template output : String} {cursor next : Cursor}
  {cursors : List Cursor}

theorem run_of_done (h : cursor.pass? context template = some (.done output)) :
    cursor.run context template = some ([cursor], output) := by
  rw [run.eq_def]
  split <;> simp_all

theorem run_of_next (h : cursor.pass? context template = some (.next next)) :
    cursor.run context template =
      (next.run context template).map fun (cursors, output) => (cursor :: cursors, output) := by
  rw [run.eq_def]
  split <;> simp_all

/-- A run starts with its first cursor and goes on by moves. -/
theorem exists_isChain_of_run (h : cursor.run context template = some (cursors, output)) :
    ∃ later, cursors = cursor :: later ∧ (cursor :: later).IsChain Moves := by
  fun_induction run context template cursor generalizing cursors with
  | case1 => simp at h
  | case2 cursor output' hpass =>
    obtain ⟨hcursors, -⟩ : [cursor] = cursors ∧ output' = output := by simpa using h
    exact ⟨[], hcursors.symm, .singleton cursor⟩
  | case3 cursor next hpass _ _ ih =>
    simp only [Option.map_eq_some_iff, Prod.mk.injEq, Prod.exists] at h
    obtain ⟨cursors', output', hrun, rfl, rfl⟩ := h
    obtain ⟨later, rfl, hchain⟩ := ih hrun
    exact ⟨next :: later, rfl, List.isChain_cons_cons.2 ⟨(moves_of_pass? hpass).1, hchain⟩⟩

end Run

/-- Along a chain of moves no place comes again. -/
theorem pairwise_pos_of_isChain {cursors : List Cursor} (h : cursors.IsChain Moves) :
    cursors.Pairwise fun earlier later => earlier.pos < later.pos := by
  have htrans : IsTrans Cursor fun earlier later => earlier.pos < later.pos :=
    ⟨fun _ _ _ => Nat.lt_trans⟩
  exact List.isChain_iff_pairwise.1 (h.imp fun _ _ hmoves => hmoves.pos_lt)

end Cursor

/-- The parenthesis was noted by a cursor that stood before it, and the output since then is the
output of that cursor, the parenthesis and more. -/
structure ParenMark.NotedBy (mark : ParenMark) (earlier later : Cursor) : Prop where
  mark_eq : mark = ⟨earlier.output.utf8ByteSize, earlier.pos + 1⟩
  copied : ∃ more, later.output = earlier.output ++ "(" ++ more

namespace Cursor
variable {seen more : List Cursor} {cursor next : Cursor}

/-- Whatever a cursor has noted was noted by a cursor that has been seen. -/
def HasNoted (seen : List Cursor) (cursor : Cursor) : Prop :=
  ∀ mark, cursor.mark? = some mark → ∃ earlier ∈ seen, mark.NotedBy earlier cursor

theorem HasNoted.mono (h : HasNoted seen cursor) (hsub : seen ⊆ more) : HasNoted more cursor := by
  intro mark hmark
  obtain ⟨earlier, hmem, hnoted⟩ := h mark hmark
  exact ⟨earlier, hsub hmem, hnoted⟩

theorem HasNoted.moves (h : HasNoted seen cursor) (hmoves : Moves cursor next) :
    HasNoted (cursor :: seen) next := by
  intro mark hmark
  rcases hmoves.mark with hnone | ⟨hkept, more, houtput⟩ | ⟨hnoted, houtput⟩
  · simp [hnone] at hmark
  · obtain ⟨earlier, hmem, hmark_eq, held, hcopied⟩ := h mark (hkept ▸ hmark)
    refine ⟨earlier, List.mem_cons_of_mem _ hmem, hmark_eq, held ++ more, ?_⟩
    rw [houtput, hcopied, String.append_assoc]
  · obtain rfl := Option.some.inj (hnoted.symm.trans hmark)
    exact ⟨cursor, List.mem_cons_self, rfl, "", by rw [houtput, String.append_empty]⟩

/-- Along a chain of moves every parenthesis that is open was noted by one of the cursors. -/
theorem HasNoted.isChain {later : List Cursor} (h : HasNoted seen cursor)
    (hchain : (cursor :: later).IsChain Moves) :
    ∀ final ∈ cursor :: later, HasNoted (cursor :: later ++ seen) final := by
  induction later generalizing cursor seen with
  | nil => simpa using h.mono (List.subset_cons_self cursor seen)
  | cons next later ih =>
    obtain ⟨hmoves, hchain'⟩ := List.isChain_cons_cons.1 hchain
    refine List.forall_mem_cons.2 ⟨h.mono fun _ hmem => by simp [hmem], fun final hfinal => ?_⟩
    refine (ih (h.moves hmoves) hchain' final hfinal).mono fun earlier hmem => ?_
    simp only [List.cons_append, List.mem_cons, List.mem_append] at hmem ⊢
    tauto

end Cursor

end Phrasebook
